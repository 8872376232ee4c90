import SvgPage.DataUri
import SvgPage.Proofs.Text.Blank
import SvgPage.Proofs.Text.Encoding

namespace SvgPage.DataUri

/-- Whether the text before the comma ends in the mark for base 64. -/
def isMarked (head : List Char) : Bool := base64Mark.toList.isSuffixOf (head.map Char.toLower)

theorem isMarked_mark (mediaType : List Char) : isMarked (mediaType ++ base64Mark.toList) = true := by
  rw [isMarked, List.isSuffixOf_iff_suffix, List.map_append]
  exact List.suffix_append_of_suffix (by decide)

/-- An address is split at its first comma, and loses the white space at its end. -/
theorem parse?_eq {source : String} {head payload : List Char} (hcomma : ',' ∉ head)
    (hsource : source.toList = scheme.toList ++ (head ++ ',' :: payload)) :
    parse? source = some
      ⟨String.ofList (if isMarked head then head.take (head.length - base64Mark.length) else head), isMarked head,
        String.ofList (Text.dropTail Text.isBlank payload)⟩ := by
  have hbefore : ∀ c ∈ head, (c != ',') = true := fun c hmem => bne_iff_ne.2 fun heq => hcomma (heq ▸ hmem)
  have htrimmed : (Text.trim source).toList =
      scheme.toList ++ (head ++ ',' :: Text.dropTail Text.isBlank payload) := by
    have hd : source.toList = 'd' :: ("ata:".toList ++ head ++ ',' :: payload) := by
      rw [hsource, List.append_assoc]
      rfl
    rw [Text.toList_trim hd (by decide), Text.dropTail_append_cons (by decide), List.append_assoc]
    rfl
  have hscheme : scheme.length = scheme.toList.length := String.length_toList.symm
  have hprefix : scheme.toList.isPrefixOf (scheme.toList.map Char.toLower) = true := by decide
  have hhead (rest : List Char) : (head ++ ',' :: rest).takeWhile (· != ',') = head := by
    rw [List.takeWhile_append_of_pos hbefore, List.takeWhile_cons_of_neg (by decide), List.append_nil]
  have hpayload (rest : List Char) : (head ++ ',' :: rest).dropWhile (· != ',') = ',' :: rest := by
    rw [List.dropWhile_append_of_pos hbefore, List.dropWhile_cons_of_neg (by decide)]
  rw [parse?, htrimmed, hscheme, List.take_left, List.drop_left, hprefix]
  simp only [hhead, hpayload]
  rfl

/-- The payload of an address that is not marked is text with escapes. -/
theorem decode?_unmarked {source : String} {head payload : List Char} (hcomma : ',' ∉ head)
    (hmark : isMarked head = false)
    (hsource : source.toList = scheme.toList ++ (head ++ ',' :: payload)) :
    decode? source = Percent.decode? (String.ofList (Text.dropTail Text.isBlank payload)) := by
  rw [decode?, parse?_eq hcomma hsource, Option.bind_eq_bind, Option.bind_some, bytes?, hmark]
  exact if_neg Bool.false_ne_true

/-- The payload of one that is marked is in base 64, apart from white space. -/
theorem decode?_marked {source : String} {mediaType payload : List Char} (hcomma : ',' ∉ mediaType)
    (hsource : source.toList = scheme.toList ++ (mediaType ++ base64Mark.toList ++ ',' :: payload)) :
    decode? source = some (Base64.decode (String.ofList (payload.filter (!Text.isBlank ·)))) := by
  have hhead : ',' ∉ mediaType ++ base64Mark.toList := by
    rw [List.mem_append]
    exact not_or.2 ⟨hcomma, by decide⟩
  rw [decode?, parse?_eq hhead hsource, Option.bind_eq_bind, Option.bind_some, bytes?, isMarked_mark, if_pos rfl,
    String.toList_ofList, Text.filter_dropTail]

/-- An address gives back the bytes that have been put into it in base 64, wherever white space has been put into
    the payload, and the text that has been put into it with escapes, whichever characters other than `%` and white
    space stand for themselves. -/
theorem decode?_encoded {mediaType : String} (hcomma : ',' ∉ mediaType.toList) :
    (∀ (data : List UInt8) (payload : String), Text.Spaced (Base64.encode data).toList payload.toList →
      decode? ("data:" ++ mediaType ++ ";base64," ++ payload) = some data) ∧
    (¬";base64".toList <:+ mediaType.toList.map Char.toLower → ∀ (keeps : Char → Bool),
      (∀ c, keeps c = true → c ≠ '%' ∧ Text.isBlank c = false) → ∀ text : String,
      decode? ("data:" ++ mediaType ++ "," ++ Percent.encode keeps text) = some text.toUTF8.data.toList) := by
  constructor
  · intro data payload hspaced
    have hsource : ("data:" ++ mediaType ++ ";base64," ++ payload).toList =
        scheme.toList ++ (mediaType.toList ++ base64Mark.toList ++ ',' :: payload.toList) := by
      simp only [String.toList_append, List.append_assoc]
      rfl
    rw [decode?_marked hcomma hsource, hspaced.filter_eq fun c => Base64.isBlank_of_mem_encode,
      String.ofList_toList, Base64.decode_encode]
  · intro hmark keeps hkeeps text
    have hsource : ("data:" ++ mediaType ++ "," ++ Percent.encode keeps text).toList =
        scheme.toList ++ (mediaType.toList ++ ',' :: (Percent.encode keeps text).toList) := by
      simp only [String.toList_append, List.append_assoc]
      rfl
    have hunmarked : isMarked mediaType.toList = false := by
      rw [isMarked, Bool.eq_false_iff, ne_eq, List.isSuffixOf_iff_suffix]
      exact hmark
    have hvisible := Percent.isBlank_of_mem_encode (fun c hc => (hkeeps c hc).2) text
    rw [decode?_unmarked hcomma hunmarked hsource, Text.dropTail_of_none hvisible, String.ofList_toList,
      Percent.decode?_encode fun c hc => (hkeeps c hc).1, Utf8.encode_eq_toUTF8]

theorem decode?_encoded_image :
    ',' ∉ "image/png".toList ∧
      Text.Spaced (Base64.encode [0x89, 0x50, 0x4E, 0x47]).toList "iV BO\nRw= =".toList ∧
      ¬";base64".toList <:+ "image/png".toList.map Char.toLower ∧
      (∀ c, Percent.isUnreserved c = true → c ≠ '%' ∧ Text.isBlank c = false) ∧
      decode? ("data:" ++ "image/png" ++ ";base64," ++ "iV BO\nRw= =") = some [0x89, 0x50, 0x4E, 0x47] ∧
      Percent.encode Percent.isUnreserved "50 %é" = "50%20%25%C3%A9" ∧
      decode? ("data:" ++ "image/png" ++ "," ++ Percent.encode Percent.isUnreserved "50 %é") =
        some "50 %é".toUTF8.data.toList := by
  have hspaced : Text.Spaced (Base64.encode [0x89, 0x50, 0x4E, 0x47]).toList "iV BO\nRw= =".toList := by
    have hvisible : "iV BO\nRw= =".toList.filter (!Text.isBlank ·) =
        (Base64.encode [0x89, 0x50, 0x4E, 0x47]).toList := by
      decide
    rw [← hvisible]
    exact Text.spaced_filter _
  have hcomma : ',' ∉ "image/png".toList := by decide
  have hmark : ¬";base64".toList <:+ "image/png".toList.map Char.toLower := by decide
  have hkeeps (c : Char) (hc : Percent.isUnreserved c = true) := Percent.isUnreserved_spec hc
  exact ⟨hcomma, hspaced, hmark, hkeeps, (decode?_encoded hcomma).1 _ _ hspaced, by decide +kernel,
    (decode?_encoded hcomma).2 hmark _ hkeeps _⟩

end SvgPage.DataUri
