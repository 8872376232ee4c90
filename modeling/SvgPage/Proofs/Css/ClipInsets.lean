import SvgPage.Css.ClipInsets
import SvgPage.Proofs.Css.Value
import SvgPage.Proofs.Numeric.Numeral

namespace SvgPage.Css

/-- Whether a character can stand in a length. -/
def isLengthChar (c : Char) : Bool := isNumeral c || c.isAlpha || c == '%'

/-- Whether a text is one word among the arguments of a function. -/
structure IsSide (text : List Char) : Prop where
  nonempty : text ≠ []
  chars : ∀ c ∈ text, isLengthChar c = true
  range : isUnicodeRange text = false

theorem isLengthChar_ne {c d : Char} (h : isLengthChar c = true) (hd : isLengthChar d = false) : c ≠ d := by
  rintro rfl
  rw [h] at hd
  cases hd

theorem isUnicodeRange_of_isNumeral {c : Char} (h : isNumeral c = true) (rest : List Char) :
    isUnicodeRange (c :: rest) = false := by
  have hne {d : Char} (hd : isNumeral d = false) : (c == d) = false := by
    refine beq_false_of_ne fun heq => ?_
    rw [heq, hd] at h
    cases h
  rw [isUnicodeRange.eq_def]
  split
  next hcons =>
    obtain ⟨rfl, -⟩ := List.cons.inj hcons
    rw [hne (by decide), hne (by decide), Bool.false_or, Bool.false_and, Bool.false_and]
  next => rfl

namespace Lexeme

theorem isSpace_of_isLengthChar {c : Char} (h : isLengthChar c = true) : isSpace c = false := by
  have hcode : 0x20 < c.toNat := by
    rw [isLengthChar, Bool.or_eq_true, Bool.or_eq_true] at h
    obtain (hnumeral | hletter) | hpercent := h
    · have hcode := toNat_of_isNumeral hnumeral
      simp only [List.mem_cons, List.not_mem_nil, or_false] at hcode
      omega
    · have hcase : (c.isUpper || c.isLower) = true := hletter
      obtain hupper | hlower := Bool.or_eq_true_iff.1 hcase
      · have hbounds : 'A'.val ≤ c.val ∧ c.val ≤ 'Z'.val := of_decide_eq_true hupper
        obtain ⟨hfirst, -⟩ := hbounds
        exact (by decide : 0x20 < 'A'.toNat).trans_le (UInt32.le_iff_toNat_le.1 hfirst)
      · have hbounds : (decide ('a'.val ≤ c.val) && decide (c.val ≤ 'z'.val)) = true := hlower
        have hfirst := of_decide_eq_true (Bool.and_eq_true_iff.1 hbounds).1
        exact (by decide : 0x20 < 'a'.toNat).trans_le (UInt32.le_iff_toNat_le.1 hfirst)
    · rw [beq_iff_eq.1 hpercent]
      decide
  exact decide_eq_false (Nat.not_le.2 hcode)

/-- The characters of lengths do not end the words of a function that is not called `calc`. -/
theorem endsWord_of_isLengthChar {c : Char} (h : isLengthChar c = true) : endsWord (some "rect".toList) c = false := by
  have hother {d : Char} (hd : isLengthChar d = false) : (c == d) = false := beq_false_of_ne (isLengthChar_ne h hd)
  rw [endsWord, isSpace_of_isLengthChar h, isQuote, isDivider, hother (by decide), hother (by decide),
    hother (by decide), hother (by decide), hother (by decide), hother (by decide), hother (by decide),
    hother (by decide)]
  rfl

/-- A word is taken up to a character that ends it. -/
theorem takeWord_of_forall {ends : Char → Bool} {text : List Char}
    (h : ∀ c ∈ text, ends c = false ∧ c ≠ '\\') {next : Char} (hnext : ends next = true) (rest : List Char) :
    takeWord ends false (text ++ next :: rest) = (text, next :: rest) := by
  induction text with
  | nil => simp only [List.nil_append, takeWord, hnext, Bool.not_false, Bool.and_true, if_true]
  | cons c text ih =>
    obtain ⟨hc, htext⟩ := List.forall_mem_cons.1 h
    have hplain : (c == '\\') = false := beq_false_of_ne hc.2
    rw [List.cons_append, takeWord, if_neg (by rw [hc.1]; exact Bool.false_ne_true), hplain, Bool.false_and, ih htext]

/-- A side of a rectangle is a word up to the comma or the parenthesis behind it. -/
theorem scan_side {c : Char} {text : List Char} (h : ∀ d ∈ c :: text, isLengthChar d = true) {next : Char}
    (hnext : next = ',' ∨ next = ')') (rest : List Char) :
    scan (some "rect".toList) c (text ++ next :: rest) = (word (c :: text), next :: rest) := by
  obtain ⟨hc, htext⟩ := List.forall_mem_cons.1 h
  have hother {d : Char} (hd : isLengthChar d = false) : (c == d) = false := beq_false_of_ne (isLengthChar_ne hc hd)
  have hends : endsWord (some "rect".toList) next = true := by
    obtain rfl | rfl := hnext <;> decide
  have hafter : (next :: rest).head? ≠ some '(' := by
    obtain rfl | rfl := hnext <;> simp
  have htaken : takeWord (endsWord (some "rect".toList)) (c == '\\') (text ++ next :: rest) =
      (text, next :: rest) := by
    rw [hother (by decide)]
    exact takeWord_of_forall
      (fun d hd => ⟨endsWord_of_isLengthChar (htext d hd), isLengthChar_ne (htext d hd) (by decide)⟩) hends rest
  have hquote : isQuote c = false := by rw [isQuote, hother (by decide), hother (by decide), Bool.false_or]
  have hdivider : isDivider c = false := by
    rw [isDivider, hother (by decide), hother (by decide), hother (by decide)]
    rfl
  rw [scan, isSpace_of_isLengthChar hc, hquote, hdivider, hother (by decide), hother (by decide), hother (by decide),
    hother (by decide)]
  exact scanWord_of_word htaken hafter

end Lexeme

namespace Reading

/-- The arguments that have been read of a rectangle. -/
def inRect (arguments : List Component) : Reading := ⟨[⟨"rect".toList, [], []⟩], arguments, ""⟩

theorem blankPlace_of_divider {c : Char} (h : c ≠ ')') (inside : Option (List Char)) (mark : Char)
    (before after : String) (others : List Component) (rest : List Char) :
    blankPlace inside (.divider mark before after :: others) (c :: rest) = .afterDivider mark before others := by
  rw [blankPlace]
  intro tail hrest
  exact h (List.cons.inj hrest).1

theorem components_rect {text : List Char} (h : IsSide text) (rest : List Char) :
    initial.components ("rect(".toList ++ (text ++ rest)) = (inRect []).components (text ++ rest) := by
  obtain ⟨c, text, rfl⟩ := List.exists_cons_of_ne_nil h.nonempty
  have hspace : ¬Lexeme.isSpace c = true := by
    rw [Lexeme.isSpace_of_isLengthChar (h.chars c List.mem_cons_self)]
    exact Bool.false_ne_true
  have hall : ("ect".toList.all fun c => !Lexeme.endsWord none c && c != '\\') = true := rfl
  have hletters (c : Char) (hmem : c ∈ "ect".toList) : Lexeme.endsWord none c = false ∧ c ≠ '\\' := by
    simpa using List.all_eq_true.1 hall c hmem
  have htaken : Lexeme.takeWord (Lexeme.endsWord none) ('r' == '\\') ("ect".toList ++ '(' :: (c :: text ++ rest)) =
      ("ect".toList, '(' :: (c :: text ++ rest)) :=
    Lexeme.takeWord_of_forall hletters (by decide) _
  have hopening : Lexeme.scan none 'r' ("ect".toList ++ '(' :: (c :: text ++ rest)) =
      (.opening "rect".toList [], c :: text ++ rest) := by
    have hnot : ¬("rect".toList == "url".toList &&
        !((c :: text ++ rest).dropWhile Lexeme.isSpace).head?.any Lexeme.isQuote) = true := by
      rw [show ("rect".toList == "url".toList) = false from rfl, Bool.false_and]
      exact Bool.false_ne_true
    refine (Lexeme.scanWord_of_opening htaken).trans ((Lexeme.scanOpening_of_opening hnot).trans ?_)
    rw [List.cons_append, List.takeWhile_cons_of_neg hspace, List.dropWhile_cons_of_neg hspace]
  change initial.components ('r' :: ("ect".toList ++ '(' :: (c :: text ++ rest))) = _
  rw [components_cons]
  change (initial.take (Lexeme.scan none 'r' ("ect".toList ++ '(' :: (c :: text ++ rest))).2 _).components _ = _
  rw [show initial.inside = none from rfl, hopening]
  rfl

variable {arguments : List Component} {text : List Char}

theorem components_side (h : IsSide text) {next : Char} (hnext : next = ',' ∨ next = ')') (rest : List Char) :
    (inRect arguments).components (text ++ next :: rest) =
      (inRect (.word (String.ofList text) :: arguments)).components (next :: rest) := by
  obtain ⟨c, text, rfl⟩ := List.exists_cons_of_ne_nil h.nonempty
  have hscan : Lexeme.scan (inRect arguments).inside c (text ++ next :: rest) = (.word (c :: text), next :: rest) :=
    Lexeme.scan_side h.chars hnext rest
  rw [List.cons_append, components_cons, hscan]
  dsimp only [take]
  rw [wordComponent, h.range]
  rfl

/-- A comma and a space stand between two sides. -/
theorem components_comma (h : IsSide text) (rest : List Char) :
    (inRect arguments).components (',' :: ' ' :: (text ++ rest)) =
      (inRect (.divider ',' "" " " :: arguments)).components (text ++ rest) := by
  obtain ⟨c, text, rfl⟩ := List.exists_cons_of_ne_nil h.nonempty
  have hc : isLengthChar c = true := h.chars c List.mem_cons_self
  have hspace : ¬Lexeme.isSpace c = true := by
    rw [Lexeme.isSpace_of_isLengthChar hc]
    exact Bool.false_ne_true
  have hplace := blankPlace_of_divider (isLengthChar_ne hc (by decide : isLengthChar ')' = false))
    (inRect arguments).inside ',' "" "" arguments (text ++ rest)
  have hcomma : (inRect arguments).components (',' :: ' ' :: (c :: text ++ rest)) =
      (inRect (.divider ',' "" "" :: arguments)).components (' ' :: (c :: text ++ rest)) := by
    rw [components_cons]
    rfl
  rw [hcomma, components_cons, Lexeme.scan_of_space (by decide), List.cons_append,
    List.takeWhile_cons_of_neg hspace, List.dropWhile_cons_of_neg hspace, take_blanks_of_divider hplace]
  rfl

theorem components_end :
    (inRect arguments).components [')'] = [.function "rect" "" arguments.reverse "" true] := by
  rw [components_cons]
  exact components_nil _

end Reading

variable {α : Type} [Scalar α]

/-- What a side of a rectangle stands for: nothing if it is `auto`, or else a length, written without blanks. -/
inductive Inset (context : LengthContext α) : String → α → Prop
  | auto : Inset context "auto" 0
  | length {text : String} {value : α} (hblank : text.toList.any Text.isBlank = false)
      (hread : Length.read? text 0 context = some value) : Inset context text value

namespace Length

theorem scan?_of_read? {text : String} {reference value : α} {context : LengthContext α}
    (h : read? text reference context = some value) : ∃ amount name, scan? text = some (amount, name) := by
  obtain ⟨⟨amount, name⟩, hscan, -⟩ := Option.bind_eq_some_iff.1 h
  exact ⟨amount, name, hscan⟩

/-- Without blanks, a length is a numeral with letters and percent signs behind it. -/
theorem isSide_of_scan? {text : String} (hblank : ∀ c ∈ text.toList, Text.isBlank c = false) {amount : Decimal}
    {name : String} (h : scan? text = some (amount, name)) : IsSide text.toList := by
  have hkeep {cs : List Char} (hcs : ∀ c ∈ cs, Text.isBlank c = false) : cs.dropWhile Text.isBlank = cs := by
    cases cs with
    | nil => rfl
    | cons c rest => exact List.dropWhile_cons_of_neg (Bool.eq_false_iff.1 (hcs c List.mem_cons_self))
  obtain ⟨⟨decimal, rest⟩, hscan, hunit⟩ := Option.bind_eq_some_iff.1 h
  rw [hkeep hblank] at hscan
  obtain ⟨taken, htext, hnonempty, hnumeral⟩ := Decimal.scan_eq hscan
  have hrest : ∀ c ∈ rest, Text.isBlank c = false := fun c hmem =>
    hblank c (htext ▸ List.mem_append_right taken hmem)
  have hletters : ∀ c ∈ rest, (c.isAlpha || c == '%') = true := by
    obtain ⟨_, hguard, -⟩ := Option.bind_eq_some_iff.1 hunit
    rw [hkeep hrest, guard] at hguard
    split at hguard
    next hall =>
      have hnone : rest.dropWhile (fun c => c.isAlpha || c == '%') = [] := by
        refine List.eq_nil_iff_forall_not_mem.2 fun c hmem => ?_
        have hblank := List.all_eq_true.1 hall c hmem
        rw [hrest c ((List.dropWhile_suffix _).subset hmem)] at hblank
        cases hblank
      exact List.dropWhile_eq_nil_iff.1 hnone
    next => cases hguard
  obtain ⟨c, others, rfl⟩ := List.exists_cons_of_ne_nil hnonempty
  have hc : isNumeral c = true := hnumeral c List.mem_cons_self
  refine ⟨htext ▸ List.cons_ne_nil _ _, fun d hd => ?_, ?_⟩
  · rw [htext] at hd
    rw [isLengthChar]
    obtain hd | hd := List.mem_append.1 hd
    · rw [hnumeral d hd, Bool.true_or, Bool.true_or]
    · rw [Bool.or_assoc, hletters d hd, Bool.or_true]
  · rw [htext, List.cons_append, isUnicodeRange_of_isNumeral hc]

end Length

namespace Inset

variable {context : LengthContext α} {text : String} {value : α}

theorem isSide (h : Inset context text value) : IsSide text.toList := by
  cases h with
  | auto => exact ⟨by decide, List.all_eq_true.1 rfl, by decide⟩
  | length hblank hread =>
    obtain ⟨amount, name, hscan⟩ := Length.scan?_of_read? hread
    exact Length.isSide_of_scan? (fun c hmem => Bool.eq_false_iff.2 (List.any_eq_false.1 hblank c hmem)) hscan

theorem readInset_eq (h : Inset context text value) : readInset text context = value := by
  cases h with
  | auto => rfl
  | length hblank hread =>
    have hauto : ¬(text == "auto") = true := by
      intro hauto
      obtain ⟨amount, name, hscan⟩ := Length.scan?_of_read? hread
      rw [beq_iff_eq.1 hauto] at hscan
      cases hscan
    rw [readInset, if_neg hauto, hread, Option.getD_some]

end Inset

/-- The text of a clip rectangle with the given sides. -/
def rectText (top right bottom left : String) : String :=
  "rect(" ++ top ++ ", " ++ right ++ ", " ++ bottom ++ ", " ++ left ++ ")"

/-- The sides of a clip rectangle are given from the top on, clockwise. -/
theorem ClipInsets.read?_rectText {top right bottom left : String} {context : LengthContext α}
    {insets : ClipInsets α} (htop : Inset context top insets.top) (hright : Inset context right insets.right)
    (hbottom : Inset context bottom insets.bottom) (hleft : Inset context left insets.left) :
    ClipInsets.read? (rectText top right bottom left) context = some insets := by
  have htext : (rectText top right bottom left).toList = "rect(".toList ++ (top.toList ++ ',' :: ' ' ::
      (right.toList ++ ',' :: ' ' :: (bottom.toList ++ ',' :: ' ' :: (left.toList ++ [')'])))) := by
    simp only [rectText, String.toList_append, List.append_assoc]
    rfl
  have hparsed : ∃ arguments, parseValue (rectText top right bottom left) =
      [.function "rect" "" arguments "" true] ∧ Component.words arguments = [top, right, bottom, left] := by
    refine ⟨[.word top, .divider ',' "" " ", .word right, .divider ',' "" " ", .word bottom, .divider ',' "" " ",
      .word left], ?_, rfl⟩
    change Reading.initial.components (rectText top right bottom left).toList = _
    rw [htext, Reading.components_rect htop.isSide, Reading.components_side htop.isSide (.inl rfl),
      Reading.components_comma hright.isSide, Reading.components_side hright.isSide (.inl rfl),
      Reading.components_comma hbottom.isSide, Reading.components_side hbottom.isSide (.inl rfl),
      Reading.components_comma hleft.isSide, Reading.components_side hleft.isSide (.inr rfl),
      Reading.components_end]
    simp only [String.ofList_toList]
    rfl
  obtain ⟨arguments, hvalue, hwords⟩ := hparsed
  rw [ClipInsets.read?, hvalue, Component.firstFunction?]
  simp only [hwords, List.map_cons, List.map_nil, htop.readInset_eq, hright.readInset_eq, hbottom.readInset_eq,
    hleft.readInset_eq]
  rfl

end SvgPage.Css
