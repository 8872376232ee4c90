import Mathlib.Data.List.TakeWhile
import Mathlib.Data.Option.Basic
import SvgPage.Css.Length

namespace SvgPage

/-- Whether a character can stand in a decimal numeral. -/
def isNumeral (c : Char) : Bool := c.isDigit || ['.', '-', '+', 'e', 'E'].contains c

namespace Decimal

theorem isNumeral_takeWhile (cs : List Char) : ∀ c ∈ cs.takeWhile Char.isDigit, isNumeral c = true := by
  intro c hmem
  rw [isNumeral, List.mem_takeWhile_imp hmem, Bool.true_or]

theorem scanSign_eq (cs : List Char) :
    ∃ sign, cs = sign ++ (scanSign cs).2 ∧ ∀ c ∈ sign, isNumeral c = true := by
  fun_cases scanSign cs with
  | case1 rest => exact ⟨['-'], rfl, List.forall_mem_singleton.2 rfl⟩
  | case2 rest => exact ⟨['+'], rfl, List.forall_mem_singleton.2 rfl⟩
  | case3 => exact ⟨[], rfl, List.forall_mem_nil _⟩

theorem scanMagnitude_eq {cs rest digits : List Char} {places : Nat}
    (h : scanMagnitude cs = some (digits, places, rest)) :
    ∃ taken, cs = taken ++ rest ∧ taken ≠ [] ∧ ∀ c ∈ taken, isNumeral c = true := by
  have hcs : cs = cs.takeWhile Char.isDigit ++ cs.dropWhile Char.isDigit :=
    List.takeWhile_append_dropWhile.symm
  rw [scanMagnitude] at h
  split at h
  next after hafter =>
    dsimp only at h
    split at h
    · cases h
    next hdigits =>
      cases h
      refine ⟨cs.takeWhile Char.isDigit ++ '.' :: after.takeWhile Char.isDigit, ?_, ?_, ?_⟩
      · rw [List.append_assoc, List.cons_append, List.takeWhile_append_dropWhile, ← hafter, ← hcs]
      · exact List.append_ne_nil_of_right_ne_nil _ (List.cons_ne_nil _ _)
      · exact List.forall_mem_append.2 ⟨isNumeral_takeWhile cs,
          List.forall_mem_cons.2 ⟨by decide, isNumeral_takeWhile after⟩⟩
  · split at h
    · cases h
    next hdigits =>
      cases h
      exact ⟨_, hcs, fun hnone => hdigits (List.isEmpty_iff.2 hnone), isNumeral_takeWhile cs⟩

theorem scanExponent_eq (cs : List Char) :
    ∃ taken, cs = taken ++ (scanExponent cs).2 ∧ ∀ c ∈ taken, isNumeral c = true := by
  have hnone : ∃ taken, cs = taken ++ cs ∧ ∀ c ∈ taken, isNumeral c = true :=
    ⟨[], rfl, List.forall_mem_nil _⟩
  cases cs with
  | nil => exact hnone
  | cons c rest =>
    rw [scanExponent]
    split
    next hletter =>
      obtain ⟨sign, hsign, hnumeral⟩ := scanSign_eq rest
      dsimp only
      split
      · exact hnone
      · refine ⟨c :: (sign ++ (scanSign rest).2.takeWhile Char.isDigit), ?_, ?_⟩
        · rw [List.cons_append, List.append_assoc, List.takeWhile_append_dropWhile, ← hsign]
        · refine List.forall_mem_cons.2 ⟨?_, List.forall_mem_append.2 ⟨hnumeral, isNumeral_takeWhile _⟩⟩
          rw [Bool.or_eq_true, beq_iff_eq, beq_iff_eq] at hletter
          obtain rfl | rfl := hletter <;> decide
    · exact hnone

/-- What is read as a number is made of the characters of numerals. -/
theorem scan_eq {cs rest : List Char} {decimal : Decimal} (h : scan cs = some (decimal, rest)) :
    ∃ taken, cs = taken ++ rest ∧ taken ≠ [] ∧ ∀ c ∈ taken, isNumeral c = true := by
  obtain ⟨⟨fixed, after⟩, hfixed, hdecimal⟩ := Option.map_eq_some_iff.1 h
  obtain ⟨⟨digits, places, unscaled⟩, hmagnitude, hplaced⟩ := Option.map_eq_some_iff.1 hfixed
  have hafter : unscaled = after := congrArg Prod.snd hplaced
  have hrest : (scanExponent after).2 = rest := congrArg Prod.snd hdecimal
  obtain ⟨sign, hsign, hsigned⟩ := scanSign_eq cs
  obtain ⟨magnitude, hnumber, hnonempty, hdigits⟩ := scanMagnitude_eq hmagnitude
  obtain ⟨power, hpower, hscaled⟩ := scanExponent_eq after
  refine ⟨sign ++ (magnitude ++ power), ?_, ?_, ?_⟩
  · rw [List.append_assoc, List.append_assoc, ← hrest, ← hpower, ← hafter, ← hnumber]
    exact hsign
  · exact List.append_ne_nil_of_right_ne_nil _ (List.append_ne_nil_of_left_ne_nil hnonempty _)
  · exact List.forall_mem_append.2 ⟨hsigned, List.forall_mem_append.2 ⟨hdigits, hscaled⟩⟩

end Decimal

theorem toNat_of_isNumeral {c : Char} (h : isNumeral c = true) :
    (48 ≤ c.toNat ∧ c.toNat ≤ 57) ∨ c.toNat ∈ [46, 45, 43, 101, 69] := by
  rw [isNumeral, Bool.or_eq_true, List.contains_iff_mem] at h
  obtain hdigit | hmark := h
  · rw [Char.isDigit, Bool.and_eq_true, decide_eq_true_iff, decide_eq_true_iff] at hdigit
    exact .inl ⟨UInt32.le_iff_toNat_le.1 hdigit.1, UInt32.le_iff_toNat_le.1 hdigit.2⟩
  · exact .inr (List.mem_map_of_mem hmark)

theorem isBlank_of_isNumeral {c : Char} (h : isNumeral c = true) : Text.isBlank c = false := by
  have hcode := toNat_of_isNumeral h
  simp only [List.mem_cons, List.not_mem_nil, or_false] at hcode
  simp [Text.isBlank]
  omega

/-- The text of a number is a numeral that denotes it. -/
def Scalar.Prints {α : Type} [Scalar α] (x : α) : Prop :=
  ∃ decimal, Decimal.scan (Scalar.toText x).toList = some (decimal, []) ∧ decimal.value = x ∧
    Scalar.isFinite x = true

namespace Scalar.Prints

variable {α : Type} [Scalar α] {x : α}

theorem chars (h : Prints x) :
    (Scalar.toText x).toList ≠ [] ∧ ∀ c ∈ (Scalar.toText x).toList, isNumeral c = true := by
  obtain ⟨decimal, hscan, -, -⟩ := h
  obtain ⟨taken, htext, hnonempty, hnumeral⟩ := Decimal.scan_eq hscan
  rw [List.append_nil] at htext
  rw [htext]
  exact ⟨hnonempty, hnumeral⟩

theorem dropWhile_eq (h : Prints x) :
    (Scalar.toText x).toList.dropWhile Text.isBlank = (Scalar.toText x).toList := by
  obtain ⟨hnonempty, hnumeral⟩ := h.chars
  obtain ⟨c, rest, htext⟩ := List.exists_cons_of_ne_nil hnonempty
  rw [htext] at hnumeral ⊢
  have hblank := isBlank_of_isNumeral (hnumeral c List.mem_cons_self)
  rw [List.dropWhile_cons_of_neg (by rw [hblank]; exact Bool.false_ne_true)]

/-- The text is read back as the number. -/
theorem readNumber?_eq (h : Prints x) : readNumber? (Scalar.toText x) = some x := by
  have hblank := h.dropWhile_eq
  obtain ⟨decimal, hscan, hvalue, hfinite⟩ := h
  have hread : Numeral.read? (Scalar.toText x) = some (.finite decimal) := by
    rw [Numeral.read?, hblank, hscan]
  rw [readNumber?, hread]
  simp only [Option.bind_eq_bind, Option.bind_some, Numeral.value?, hvalue, hfinite, if_true]

/-- It is read as a length, too. -/
theorem read?_eq (h : Prints x) (reference : α) (context : Css.LengthContext α) :
    Css.Length.read? (Scalar.toText x) reference context = some x := by
  have hblank := h.dropWhile_eq
  obtain ⟨decimal, hscan, hvalue, -⟩ := h
  have hread : Css.Length.scan? (Scalar.toText x) = some (decimal, "") := by
    simp only [Css.Length.scan?, hblank, hscan]
    rfl
  rw [Css.Length.read?, hread]
  change some (Css.Length.convert decimal.value reference context .user) = some x
  rw [hvalue]
  rfl

end Scalar.Prints

end SvgPage
