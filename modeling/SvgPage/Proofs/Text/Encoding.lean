import Mathlib.Data.List.Basic
import Mathlib.Data.List.TakeWhile
import Mathlib.Tactic.IntervalCases
import SvgPage.Text.Base64
import SvgPage.Text.Blank
import SvgPage.Text.Percent
import SvgPage.Text.Utf8

namespace SvgPage.Utf8

theorem toNat_toUInt8 {n : Nat} (h : n < 0x100) : n.toUInt8.toNat = n := UInt8.toNat_ofNat_of_lt' h

/-- No character is a surrogate. -/
theorem toNat_bounds (c : Char) : c.toNat < 0xD800 ∨ 0xDFFF < c.toNat ∧ c.toNat < 0x110000 := c.valid

section Forms

variable {c : Char}

theorem encodeChar_one (h : c.toNat < 0x80) : encodeChar c = [c.toNat.toUInt8] := if_pos h

theorem encodeChar_two (hlow : 0x80 ≤ c.toNat) (hhigh : c.toNat < 0x800) :
    encodeChar c = [(0xC0 + c.toNat / 0x40).toUInt8, (0x80 + c.toNat % 0x40).toUInt8] :=
  (if_neg (Nat.not_lt.2 hlow)).trans (if_pos hhigh)

theorem encodeChar_three (hlow : 0x800 ≤ c.toNat) (hhigh : c.toNat < 0x10000) :
    encodeChar c = [(0xE0 + c.toNat / 0x1000).toUInt8, (0x80 + c.toNat / 0x40 % 0x40).toUInt8,
      (0x80 + c.toNat % 0x40).toUInt8] :=
  (if_neg (by omega)).trans ((if_neg (Nat.not_lt.2 hlow)).trans (if_pos hhigh))

theorem encodeChar_four (h : 0x10000 ≤ c.toNat) :
    encodeChar c = [(0xF0 + c.toNat / 0x40000).toUInt8, (0x80 + c.toNat / 0x1000 % 0x40).toUInt8,
      (0x80 + c.toNat / 0x40 % 0x40).toUInt8, (0x80 + c.toNat % 0x40).toUInt8] :=
  (if_neg (by omega)).trans ((if_neg (by omega)).trans (if_neg (Nat.not_lt.2 h)))

end Forms

/-- The bytes of a text are those that the language itself keeps it in. -/
theorem encode_eq_toUTF8 (s : String) : encode s = s.toUTF8.data.toList := by
  change _ = s.toByteArray.data.toList
  rw [← String.utf8Encode_toList, List.utf8Encode, List.toList_data_toByteArray]
  refine List.flatMap_congr fun c _ => ?_
  have hbounds := toNat_bounds c
  have hcode : c.val.toNat = c.toNat := rfl
  have hbyte {m n : Nat} (h : m = n) : m.toUInt8 = UInt8.ofNat n := congrArg UInt8.ofNat h
  rw [String.utf8EncodeChar, hcode]
  by_cases hone : c.toNat < 0x80
  · rw [encodeChar_one hone, if_pos (by omega)]
  by_cases htwo : c.toNat < 0x800
  · rw [encodeChar_two (by omega) htwo, if_neg (by omega), if_pos (by omega)]
    simp only [List.cons.injEq, and_true]
    exact ⟨hbyte (by omega), hbyte (by omega)⟩
  by_cases hthree : c.toNat < 0x10000
  · rw [encodeChar_three (by omega) hthree, if_neg (by omega), if_neg (by omega), if_pos (by omega)]
    simp only [List.cons.injEq, and_true]
    exact ⟨hbyte (by omega), hbyte (by omega), hbyte (by omega)⟩
  · rw [encodeChar_four (by omega), if_neg (by omega), if_neg (by omega), if_neg (by omega)]
    simp only [List.cons.injEq, and_true]
    exact ⟨hbyte (by omega), hbyte (by omega), hbyte (by omega), hbyte (by omega)⟩

section Leads

variable {byte : Nat}

theorem lead?_one (h : byte < 0x80) : lead? byte.toUInt8 = some { following := 0, bits := byte } := by
  rw [lead?, toNat_toUInt8 (by omega)]
  exact if_pos h

theorem lead?_two (hlow : 0xC2 ≤ byte) (hhigh : byte < 0xE0) :
    lead? byte.toUInt8 = some { following := 1, bits := byte - 0xC0 } := by
  interval_cases byte <;> rfl

theorem lead?_three (hlow : 0xE0 ≤ byte) (hhigh : byte < 0xF0) :
    lead? byte.toUInt8 = some
      { following := 2
        bits := byte - 0xE0
        low := if byte = 0xE0 then 0xA0 else 0x80
        high := if byte = 0xED then 0x9F else 0xBF } := by
  interval_cases byte <;> rfl

theorem lead?_four (hlow : 0xF0 ≤ byte) (hhigh : byte < 0xF5) :
    lead? byte.toUInt8 = some
      { following := 3
        bits := byte - 0xF0
        low := if byte = 0xF0 then 0x90 else 0x80
        high := if byte = 0xF4 then 0x8F else 0xBF } := by
  interval_cases byte <;> rfl

end Leads

theorem follow_zero {bits : Nat} {c : Char} (h : bits = c.toNat) (low high : Nat) (rest : List UInt8) :
    follow 0 low high bits rest = (some c, rest) := by
  rw [follow, h, Char.ofNat_toNat]

theorem follow_cons {low high byte : Nat} (hlow : low ≤ byte) (hhigh : byte ≤ high) (hbyte : byte < 0x100)
    (following bits : Nat) (rest : List UInt8) :
    follow (following + 1) low high bits (byte.toUInt8 :: rest) =
      follow following 0x80 0xBF (bits * 0x40 + byte % 0x40) rest := by
  rw [follow, toNat_toUInt8 hbyte, if_pos]
  rw [Bool.and_eq_true, decide_eq_true_iff, decide_eq_true_iff]
  exact ⟨hlow, hhigh⟩

/-- What a first byte announces is read after it. -/
theorem decode_cons {byte : UInt8} {following bits low high : Nat} {c : Char} {after rest : List UInt8}
    (hlead : lead? byte = some ⟨following, bits, low, high⟩)
    (hfollow : follow following low high bits after = (some c, rest)) :
    decode (byte :: after) = some c :: decode rest := by
  simp only [decode, hlead, hfollow]

/-- The bytes of a character are read as that character. -/
theorem decode_encodeChar (c : Char) (rest : List UInt8) :
    decode (encodeChar c ++ rest) = some c :: decode rest := by
  have hbounds := toNat_bounds c
  by_cases hone : c.toNat < 0x80
  · rw [encodeChar_one hone]
    exact decode_cons (lead?_one hone) (follow_zero rfl _ _ rest)
  by_cases htwo : c.toNat < 0x800
  · rw [encodeChar_two (by omega) htwo]
    refine decode_cons (lead?_two (by omega) (by omega)) ?_
    change follow _ _ _ _ (_ :: rest) = _
    rw [follow_cons (by omega) (by omega) (by omega)]
    exact follow_zero (by omega) _ _ rest
  by_cases hthree : c.toNat < 0x10000
  · rw [encodeChar_three (by omega) hthree]
    refine decode_cons (lead?_three (by omega) (by omega)) ?_
    change follow _ _ _ _ (_ :: _ :: rest) = _
    -- The bounds of the second byte leave no surrogate.
    rw [follow_cons (by split <;> omega) (by split <;> omega) (by omega),
      follow_cons (by omega) (by omega) (by omega)]
    exact follow_zero (by omega) _ _ rest
  · rw [encodeChar_four (by omega)]
    refine decode_cons (lead?_four (by omega) (by omega)) ?_
    change follow _ _ _ _ (_ :: _ :: _ :: rest) = _
    rw [follow_cons (by split <;> omega) (by split <;> omega) (by omega),
      follow_cons (by omega) (by omega) (by omega), follow_cons (by omega) (by omega) (by omega)]
    exact follow_zero (by omega) _ _ rest

/-- The bytes of a text are read as its characters. -/
theorem decode_encode (s : String) : decode (encode s) = s.toList.map some := by
  have hchars (cs : List Char) : decode (cs.flatMap encodeChar) = cs.map some := by
    induction cs with
    | nil => rw [List.flatMap_nil, decode, List.map_nil]
    | cons c rest ih => rw [List.flatMap_cons, decode_encodeChar, ih, List.map_cons]
  exact hchars s.toList

theorem isValid_encode (s : String) : isValid (encode s) = true := by
  rw [isValid, decode_encode, List.all_eq_true]
  exact List.forall_mem_map.2 fun _ _ => rfl

end SvgPage.Utf8

namespace SvgPage.Base64

/-- The characters for the values from 0 to 63. -/
def alphabet : String := "ABCDEFGHIJKLMNOPQRSTUVWXYZabcdefghijklmnopqrstuvwxyz0123456789+/"

/-- The character for a value of six bits. -/
def digit (value : Nat) : Char := alphabet.toList.getD value '='

/-- The bits of the bytes in groups of six, the last of them filled up with zeros. -/
def values : List UInt8 → List Nat
  | a :: b :: c :: rest =>
    a.toNat / 4 :: (a.toNat % 4 * 16 + b.toNat / 16) :: (b.toNat % 16 * 4 + c.toNat / 64) :: c.toNat % 64 ::
      values rest
  | [a, b] => [a.toNat / 4, a.toNat % 4 * 16 + b.toNat / 16, b.toNat % 16 * 4]
  | [a] => [a.toNat / 4, a.toNat % 4 * 16]
  | [] => []

/-- The bytes in base 64: a character for every six bits, and padding up to a multiple of four characters. -/
def encode (data : List UInt8) : String :=
  String.ofList ((values data).map digit ++ List.replicate ((3 - data.length % 3) % 3) '=')

theorem digit_spec (n : Nat) (h : n < 64) :
    value? (digit n) = some n ∧ digit n ≠ '=' ∧ (digit n).toNat < 0x100 ∧ Text.isBlank (digit n) = false := by
  have hall : (List.range 64).all (fun n => value? (digit n) = some n ∧ digit n ≠ '=' ∧ (digit n).toNat < 0x100 ∧
      Text.isBlank (digit n) = false) = true := by
    decide +kernel
  exact of_decide_eq_true (List.all_eq_true.1 hall n (List.mem_range.2 h))

theorem values_lt (data : List UInt8) : ∀ value ∈ values data, value < 64 := by
  fun_induction values data with
  | case1 a b c rest ih =>
    have ha := a.toNat_lt
    have hb := b.toNat_lt
    have hc := c.toNat_lt
    simp only [List.forall_mem_cons]
    exact ⟨by omega, by omega, by omega, by omega, ih⟩
  | case2 a b =>
    have ha := a.toNat_lt
    have hb := b.toNat_lt
    simp only [List.forall_mem_cons]
    exact ⟨by omega, by omega, by omega, List.forall_mem_nil _⟩
  | case3 a =>
    have ha := a.toNat_lt
    simp only [List.forall_mem_cons]
    exact ⟨by omega, by omega, List.forall_mem_nil _⟩
  | case4 => exact List.forall_mem_nil _

/-- Groups of six bits are put together to the bytes that they have been taken from. -/
theorem bytes_values (data : List UInt8) : bytes (values data) = data := by
  have hbyte (byte : UInt8) {n : Nat} (h : n = byte.toNat) : n.toUInt8 = byte := by
    rw [h]
    exact UInt8.ofNat_toNat
  fun_induction values data with
  | case1 a b c rest ih =>
    have hb := b.toNat_lt
    have hc := c.toNat_lt
    rw [bytes, hbyte a (by omega), hbyte b (by omega), hbyte c (by omega), ih]
  | case2 a b =>
    have hb := b.toNat_lt
    rw [bytes, hbyte a (by omega), hbyte b (by omega)]
  | case3 a => rw [bytes, hbyte a (by omega)]
  | case4 => rw [bytes] <;> simp

theorem filterMap_value? {values : List Nat} (h : ∀ value ∈ values, value < 64) :
    (values.map digit).filterMap value? = values := by
  induction values with
  | nil => rfl
  | cons value rest ih =>
    obtain ⟨hvalue, hrest⟩ := List.forall_mem_cons.1 h
    rw [List.map_cons, List.filterMap_cons_some (digit_spec value hvalue).1, ih hrest]

theorem mem_encode {data : List UInt8} {c : Char} (h : c ∈ (encode data).toList) :
    (∃ value < 64, digit value = c) ∨ c = '=' := by
  rw [encode, String.toList_ofList, List.mem_append, List.mem_map] at h
  obtain ⟨value, hmem, rfl⟩ | hpadding := h
  · exact .inl ⟨value, values_lt data value hmem, rfl⟩
  · exact .inr (List.eq_of_mem_replicate hpadding)

/-- What is encoded has no white space in it. -/
theorem isBlank_of_mem_encode {data : List UInt8} {c : Char} (h : c ∈ (encode data).toList) :
    Text.isBlank c = false := by
  obtain ⟨value, hvalue, rfl⟩ | rfl := mem_encode h
  · exact (digit_spec value hvalue).2.2.2
  · decide

/-- A text of narrow characters has no bits that are cut off. -/
theorem narrow_eq {s : String} (h : ∀ c ∈ s.toList, c.toNat < 0x100) : narrow s = s.toList := by
  have hunit {c : Char} (hc : c.toNat < 0x100) : Text.units c = [c.toNat] := if_pos (by omega)
  rw [narrow]
  generalize s.toList = cs at h ⊢
  induction cs with
  | nil => rfl
  | cons c rest ih =>
    obtain ⟨hc, hrest⟩ := List.forall_mem_cons.1 h
    rw [List.flatMap_cons, hunit hc, List.singleton_append, List.map_cons, ih hrest, Nat.mod_eq_of_lt hc,
      Char.ofNat_toNat]

theorem narrow_encode (data : List UInt8) : narrow (encode data) = (encode data).toList := by
  refine narrow_eq fun c hmem => ?_
  obtain ⟨value, hvalue, rfl⟩ | rfl := mem_encode hmem
  · exact (digit_spec value hvalue).2.2.1
  · decide

/-- Bytes in base 64 are decoded to themselves. -/
theorem decode_encode (data : List UInt8) : decode (encode data) = data := by
  have hpadding (n : Nat) : (List.replicate n '=').takeWhile (· != '=') = [] := by
    cases n <;> rfl
  have hdigits : (encode data).toList.takeWhile (· != '=') = (values data).map digit := by
    rw [encode, String.toList_ofList, List.takeWhile_append_of_pos, hpadding, List.append_nil]
    exact List.forall_mem_map.2 fun value hmem => bne_iff_ne.2 (digit_spec value (values_lt data value hmem)).2.1
  rw [decode, narrow_encode, hdigits, filterMap_value? (values_lt data), bytes_values]

end SvgPage.Base64

namespace SvgPage.Percent

/-- The hexadecimal digit for a number below 16. -/
def hexDigit (n : Nat) : Char := "0123456789ABCDEF".toList.getD n '0'

/-- The escape that stands for a byte. -/
def escape (byte : UInt8) : List Char := ['%', hexDigit (byte.toNat / 16), hexDigit (byte.toNat % 16)]

/-- The text with escapes for the bytes of all characters but those that stand for themselves. -/
def encode (keeps : Char → Bool) (s : String) : String :=
  String.ofList (s.toList.flatMap fun c => if keeps c then [c] else (Utf8.encodeChar c).flatMap escape)

/-- Letters, digits and the marks that have no meaning of their own in an address. -/
def isUnreserved (c : Char) : Bool :=
  "ABCDEFGHIJKLMNOPQRSTUVWXYZabcdefghijklmnopqrstuvwxyz0123456789-_.!~*()".toList.contains c || c == '\''

theorem hexDigit_spec : ∀ n < 16, hexDigit? (hexDigit n) = some n ∧ Text.isBlank (hexDigit n) = false := by
  decide

theorem isUnreserved_spec {c : Char} (h : isUnreserved c = true) : c ≠ '%' ∧ Text.isBlank c = false := by
  rw [isUnreserved, Bool.or_eq_true, List.contains_iff_mem, beq_iff_eq] at h
  obtain hmem | rfl := h
  · have hall : "ABCDEFGHIJKLMNOPQRSTUVWXYZabcdefghijklmnopqrstuvwxyz0123456789-_.!~*()".toList.all
        (fun c => c ≠ '%' ∧ Text.isBlank c = false) = true := by
      decide +kernel
    exact of_decide_eq_true (List.all_eq_true.1 hall c hmem)
  · decide

theorem bytes?_escape (byte : UInt8) (rest : List Char) :
    bytes? (escape byte ++ rest) = (bytes? rest).map (byte :: ·) := by
  have hbyte := byte.toNat_lt
  have hsame : (byte.toNat / 16 * 16 + byte.toNat % 16).toUInt8 = byte := by
    rw [Nat.div_add_mod']
    exact UInt8.ofNat_toNat
  change bytes? ('%' :: _ :: _ :: rest) = _
  rw [bytes?, (hexDigit_spec _ (by omega)).1, (hexDigit_spec _ (by omega)).1]
  simp only [Option.bind_eq_bind, Option.bind_some, Option.pure_def, hsame]
  exact (Option.map_eq_bind ..).symm

theorem bytes?_escapes (bytes : List UInt8) (rest : List Char) :
    bytes? (bytes.flatMap escape ++ rest) = (bytes? rest).map (bytes ++ ·) := by
  induction bytes with
  | nil => exact (congrFun Option.map_id _).symm
  | cons byte more ih =>
    rw [List.flatMap_cons, List.append_assoc, bytes?_escape, ih, Option.map_map]
    rfl

theorem bytes?_cons {c : Char} (h : c ≠ '%') (rest : List Char) :
    bytes? (c :: rest) = (bytes? rest).map (Utf8.encodeChar c ++ ·) := by
  rw [bytes?]
  · exact if_neg (mt beq_iff_eq.1 h)
  · rintro _ _ _ rfl
    exact absurd rfl h

/-- The bytes of an encoded text are those of the text. -/
theorem bytes?_encode {keeps : Char → Bool} (hkeeps : ∀ c, keeps c = true → c ≠ '%') (s : String) :
    bytes? (encode keeps s).toList = some (Utf8.encode s) := by
  rw [encode, String.toList_ofList, Utf8.encode]
  induction s.toList with
  | nil => rfl
  | cons c rest ih =>
    rw [List.flatMap_cons, List.flatMap_cons]
    split
    next hkept => rw [List.singleton_append, bytes?_cons (hkeeps c hkept), ih, Option.map_some]
    · rw [bytes?_escapes, ih, Option.map_some]

theorem decode?_encode {keeps : Char → Bool} (hkeeps : ∀ c, keeps c = true → c ≠ '%') (s : String) :
    decode? (encode keeps s) = some (Utf8.encode s) := by
  rw [decode?, bytes?_encode hkeeps, Option.filter_some, Utf8.isValid_encode, if_pos rfl]

theorem isBlank_of_mem_encode {keeps : Char → Bool} (hkeeps : ∀ c, keeps c = true → Text.isBlank c = false)
    (s : String) : ∀ c ∈ (encode keeps s).toList, Text.isBlank c = false := by
  rw [encode, String.toList_ofList, List.forall_mem_flatMap]
  intro c _
  split
  next hkept => exact List.forall_mem_singleton.2 (hkeeps c hkept)
  · refine List.forall_mem_flatMap.2 fun byte _ => ?_
    have hbyte := byte.toNat_lt
    simp only [escape, List.forall_mem_cons]
    exact ⟨by decide, (hexDigit_spec _ (by omega)).2, (hexDigit_spec _ (by omega)).2, List.forall_mem_nil _⟩

end SvgPage.Percent
