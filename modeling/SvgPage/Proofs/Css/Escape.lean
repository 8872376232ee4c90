import Mathlib.Data.List.Infix
import SvgPage.Css.Escape

namespace SvgPage.Css

/-- Whether a character is written with a backslash in front of it. -/
def isEscaped (c : Char) : Bool := c == '\\' || c == '"' || c == '\''

/-- The characters with a backslash in front of every backslash and every quotation mark. -/
def escaped : List Char → List Char
  | [] => []
  | c :: rest => if isEscaped c then '\\' :: c :: escaped rest else c :: escaped rest

/-- The text with a backslash in front of every backslash and every quotation mark. -/
def escape (s : String) : String := String.ofList (escaped s.toList)

def isHexDigit (c : Char) : Bool := (hexDigit? c).isSome

/-- Somewhere a backslash stands right in front of a hexadecimal digit. -/
def NamesCharacter (cs : List Char) : Prop := ∃ digit, isHexDigit digit = true ∧ ['\\', digit] <:+: cs

theorem namesCharacter_cons {c : Char} {rest : List Char} :
    NamesCharacter (c :: rest) ↔ (c = '\\' ∧ rest.head?.any isHexDigit = true) ∨ NamesCharacter rest := by
  have hhead : (∃ digit, isHexDigit digit = true ∧ ['\\', digit] <+: c :: rest) ↔
      c = '\\' ∧ rest.head?.any isHexDigit = true := by
    cases rest with
    | nil => simp [List.cons_prefix_cons]
    | cons next more =>
      simp only [List.cons_prefix_cons, List.nil_prefix, and_true, List.head?_cons, Option.any_some]
      constructor
      · rintro ⟨digit, hdigit, rfl, rfl⟩
        exact ⟨rfl, hdigit⟩
      · rintro ⟨rfl, hdigit⟩
        exact ⟨next, hdigit, rfl, rfl⟩
  rw [← hhead]
  simp only [NamesCharacter, List.infix_cons_iff, and_or_left, exists_or]

theorem isHexDigit_of_isEscaped {c : Char} (h : isEscaped c = true) : isHexDigit c = false := by
  simp only [isEscaped, Bool.or_eq_true, beq_iff_eq] at h
  obtain (rfl | rfl) | rfl := h
  all_goals decide

theorem isEscaped_of_isHexDigit {c : Char} (h : isHexDigit c = true) : isEscaped c = false := by
  rw [Bool.eq_false_iff]
  intro hescaped
  rw [isHexDigit_of_isEscaped hescaped] at h
  cases h

theorem hexDigit?_eq_none {c : Char} (h : isHexDigit c = false) : hexDigit? c = none :=
  Option.isNone_iff_eq_none.1 (Option.isSome_eq_false_iff.1 h)

theorem escaped_of_isEscaped {c : Char} (h : isEscaped c = true) (rest : List Char) :
    escaped (c :: rest) = '\\' :: c :: escaped rest := by
  rw [escaped, if_pos h]

theorem escaped_of_not_isEscaped {c : Char} (h : isEscaped c = false) (rest : List Char) :
    escaped (c :: rest) = c :: escaped rest := by
  rw [escaped, h, if_neg Bool.false_ne_true]

/-- Escapes do not begin with a hexadecimal digit. -/
theorem any_isHexDigit_escaped (cs : List Char) :
    (escaped cs).head?.any isHexDigit = cs.head?.any isHexDigit := by
  cases cs with
  | nil => rfl
  | cons c rest =>
    cases hc : isEscaped c with
    | true =>
      rw [escaped_of_isEscaped hc, List.head?_cons, List.head?_cons, Option.any_some, Option.any_some,
        isHexDigit_of_isEscaped hc]
      decide
    | false => rw [escaped_of_not_isEscaped hc, List.head?_cons, List.head?_cons]

section Hexadecimal

theorem unescapeHex_cons {c : Char} (h : c ≠ '\\') (rest : List Char) :
    unescapeHex (c :: rest) = c :: unescapeHex rest := by
  rw [unescapeHex]
  all_goals simp [h]

theorem unescapeHex_singleton (c : Char) : unescapeHex [c] = [c] := by
  rw [unescapeHex, unescapeHex]
  all_goals simp

/-- A backslash stays unless there is a hexadecimal digit behind it. -/
theorem unescapeHex_backslash {rest : List Char} (h : rest.head?.any isHexDigit = false) :
    unescapeHex ('\\' :: rest) = '\\' :: unescapeHex rest := by
  match rest, h with
  | [], _ => rfl
  | [c], h =>
    rw [unescapeHex_singleton, unescapeHex, hexDigit?_eq_none h]
  | c :: next :: more, h => rw [unescapeHex, hexDigit?_eq_none h]

/-- Otherwise it is replaced, with one or two characters of the text, by the character that they name. -/
theorem unescapeHex_digit {digit : Char} (h : isHexDigit digit = true) (rest : List Char) :
    ∃ c tail, unescapeHex ('\\' :: digit :: escaped rest) = c :: unescapeHex (escaped tail) ∧
      tail.length ≤ rest.length := by
  obtain ⟨high, hhigh⟩ := Option.isSome_iff_exists.1 h
  cases rest with
  | nil =>
    refine ⟨Char.ofNat high, [], ?_, Nat.le_refl _⟩
    simp only [escaped, unescapeHex, hhigh]
  | cons next more =>
    cases hnext : isHexDigit next with
    | true =>
      obtain ⟨low, hlow⟩ := Option.isSome_iff_exists.1 hnext
      refine ⟨Char.ofNat (16 * high + low), more, ?_, Nat.le_succ _⟩
      rw [escaped_of_not_isEscaped (isEscaped_of_isHexDigit hnext), unescapeHex, hhigh, hlow]
    | false =>
      refine ⟨Char.ofNat high, next :: more, ?_, Nat.le_refl _⟩
      have hhead := any_isHexDigit_escaped (next :: more)
      cases hescaped : escaped (next :: more) with
      | nil => simp only [unescapeHex, hhigh]
      | cons first others =>
        rw [hescaped] at hhead
        rw [unescapeHex, hhigh, hexDigit?_eq_none (hhead.trans hnext)]

end Hexadecimal

theorem unescapeAny_cons {c : Char} (h : c ≠ '\\') (rest : List Char) :
    unescapeAny (c :: rest) = c :: unescapeAny rest := by
  rw [unescapeAny]
  simp [h]

/-- What is left of characters that are escaped and read again. -/
def reread (cs : List Char) : List Char := unescapeAny (unescapeHex (escaped cs))

section Reread

variable {c : Char} {rest : List Char}

theorem reread_of_isEscaped (h : isEscaped c = true) (hdigit : c = '\\' → rest.head?.any isHexDigit = false) :
    reread (c :: rest) = c :: reread rest := by
  have hc : (c :: escaped rest).head?.any isHexDigit = false := isHexDigit_of_isEscaped h
  have hkept : unescapeHex (c :: escaped rest) = c :: unescapeHex (escaped rest) := by
    by_cases hbackslash : c = '\\'
    · subst hbackslash
      exact unescapeHex_backslash ((any_isHexDigit_escaped rest).trans (hdigit rfl))
    · exact unescapeHex_cons hbackslash _
  have hline : isLineEnd c = false := by
    simp only [isEscaped, Bool.or_eq_true, beq_iff_eq] at h
    obtain (rfl | rfl) | rfl := h
    all_goals rfl
  rw [reread, escaped_of_isEscaped h, unescapeHex_backslash hc, hkept, unescapeAny, hline,
    if_neg Bool.false_ne_true, reread]

/-- A character comes back, unless it is a backslash in front of a hexadecimal digit. -/
theorem reread_cons (h : c = '\\' → rest.head?.any isHexDigit = false) : reread (c :: rest) = c :: reread rest := by
  cases hescaped : isEscaped c with
  | true => exact reread_of_isEscaped hescaped h
  | false =>
    have hc : c ≠ '\\' := by
      rintro rfl
      cases hescaped
    rw [reread, escaped_of_not_isEscaped hescaped, unescapeHex_cons hc, unescapeAny_cons hc, reread]

/-- In its place comes the character that is named. Only one that ends a line keeps a backslash. -/
theorem reread_digit {digit : Char} (h : isHexDigit digit = true) (rest : List Char) :
    ∃ c tail, reread ('\\' :: digit :: rest) = (if isLineEnd c then ['\\', c] else [c]) ++ reread tail ∧
      tail.length ≤ rest.length := by
  obtain ⟨c, tail, htail, hlength⟩ := unescapeHex_digit h rest
  refine ⟨c, tail, ?_, hlength⟩
  have hbackslash : isEscaped '\\' = true := rfl
  have hdigit : ('\\' :: digit :: escaped rest).head?.any isHexDigit = false := isHexDigit_of_isEscaped hbackslash
  rw [reread, escaped_of_isEscaped hbackslash, escaped_of_not_isEscaped (isEscaped_of_isHexDigit h),
    unescapeHex_backslash hdigit, htail, unescapeAny]
  split
  · rfl
  · rfl

/-- Induction along the characters as they are read: one by one, or past those that name another one. -/
theorem reread_induction {P : List Char → Prop} (nil : P [])
    (cons : ∀ c rest, (c = '\\' → rest.head?.any isHexDigit = false) → P rest → P (c :: rest))
    (digit : ∀ digit rest, isHexDigit digit = true → (∀ tail, tail.length ≤ rest.length → P tail) →
      P ('\\' :: digit :: rest)) (cs : List Char) : P cs := by
  match cs with
  | [] => exact nil
  | c :: rest =>
    by_cases h : c = '\\' → rest.head?.any isHexDigit = false
    · exact cons c rest h (reread_induction nil cons digit rest)
    · obtain ⟨rfl, hdigit⟩ := Classical.not_imp.1 h
      match rest with
      | [] => exact absurd rfl hdigit
      | first :: more =>
        exact digit first more (eq_true_of_ne_false hdigit) fun tail _ =>
          reread_induction nil cons digit tail
termination_by cs.length

theorem length_reread_le (cs : List Char) : (reread cs).length ≤ cs.length := by
  induction cs using reread_induction with
  | nil => exact Nat.le_refl 0
  | cons c rest h ih =>
    rw [reread_cons h]
    exact Nat.succ_le_succ ih
  | digit digit rest h ih =>
    obtain ⟨c, tail, hread, hlength⟩ := reread_digit h rest
    have htail := ih tail hlength
    rw [hread, List.length_append, List.length_cons, List.length_cons]
    split
    · rw [List.length_cons, List.length_singleton]
      omega
    · rw [List.length_singleton]
      omega

/-- Characters come back as they were exactly if no backslash stands in front of a hexadecimal digit. -/
theorem reread_eq_iff (cs : List Char) : reread cs = cs ↔ ¬NamesCharacter cs := by
  induction cs using reread_induction with
  | nil =>
    refine iff_of_true rfl ?_
    rintro ⟨digit, -, hinfix⟩
    cases List.infix_nil.1 hinfix
  | cons c rest h ih =>
    have hhead : ¬(c = '\\' ∧ rest.head?.any isHexDigit = true) := by
      rintro ⟨hc, hdigit⟩
      rw [h hc] at hdigit
      cases hdigit
    rw [reread_cons h, List.cons_inj_right, ih, namesCharacter_cons, or_iff_right hhead]
  | digit digit rest h ih =>
    refine iff_of_false ?_ (not_not_intro (namesCharacter_cons.2 (.inl ⟨rfl, h⟩)))
    obtain ⟨c, tail, hread, hlength⟩ := reread_digit h rest
    rw [hread]
    intro hsame
    split at hsame
    next hline =>
      -- A character that ends a line is no digit.
      obtain ⟨rfl, -⟩ := List.cons.inj (List.cons.inj hsame).2
      have hnot : isHexDigit c = false := by
        simp only [isLineEnd, Bool.or_eq_true, beq_iff_eq] at hline
        obtain ((rfl | rfl) | rfl) | rfl := hline
        all_goals decide
      rw [hnot] at h
      cases h
    next =>
      have hshorter := congrArg List.length hsame
      have htail := length_reread_le tail
      rw [List.length_append, List.length_singleton, List.length_cons, List.length_cons] at hshorter
      omega

end Reread

/-- A text that is escaped and read again is the same text exactly if it has no backslash in front of a hexadecimal
    digit. Such a backslash is taken for the beginning of an escape that names a character. -/
theorem unescape_escape_iff (s : String) : unescape (escape s) = s ↔ ¬NamesCharacter s.toList := by
  rw [← reread_eq_iff, unescape, escape, String.toList_ofList, reread]
  constructor
  · intro h
    have hlist := congrArg String.toList h
    rwa [String.toList_ofList] at hlist
  · intro h
    rw [h, String.ofList_toList]

/-- A backslash in front of a letter of the first six is lost, although nothing ends a line. -/
theorem unescape_escape_not_of_digit :
    ¬∀ s : String, s.toList.all (!isLineEnd ·) = true → unescape (escape s) = s := by
  intro h
  exact absurd (h "\\b" rfl) (by decide)

end SvgPage.Css
