import Mathlib.Data.List.Basic
import Mathlib.Data.Nat.Digits.Defs
import SvgPage.Numeric.Fixed
import SvgPage.Numeric.Numeral

namespace SvgPage

/-- Whether a text is a number in fixed point: a minus sign or none, digits, a point and six more digits. -/
def IsFixedPoint (text : String) : Prop :=
  ∃ sign whole fraction : List Char, text.toList = sign ++ whole ++ '.' :: fraction ∧ (sign = [] ∨ sign = ['-']) ∧
    whole ≠ [] ∧ fraction.length = 6 ∧ ∀ c ∈ whole ++ fraction, c.isDigit = true

theorem IsFixedPoint.chars {text : String} (h : IsFixedPoint text) :
    ∀ c ∈ text.toList, (c.isDigit || ['.', '-'].contains c) = true := by
  obtain ⟨sign, whole, fraction, htext, hsign, -, -, hdigits⟩ := h
  obtain ⟨hwhole, hfraction⟩ := List.forall_mem_append.1 hdigits
  have hdigit {c : Char} (hc : c.isDigit = true) : (c.isDigit || ['.', '-'].contains c) = true := by
    rw [hc, Bool.true_or]
  rw [htext]
  refine List.forall_mem_append.2 ⟨List.forall_mem_append.2 ⟨?_, ?_⟩, List.forall_mem_cons.2 ⟨rfl, ?_⟩⟩
  · obtain rfl | rfl := hsign
    · exact List.forall_mem_nil _
    · exact List.forall_mem_singleton.2 rfl
  · exact fun c hmem => hdigit (hwhole c hmem)
  · exact fun c hmem => hdigit (hfraction c hmem)

namespace Binary

/-- Whether a number is finite and less than `10 ^ 21` apart from its sign. -/
def IsModerate : Binary → Prop
  | finite _ mantissa exponent => mantissa * 2 ^ exponent.toNat < 10 ^ 21 * 2 ^ (-exponent).toNat
  | _ => False

instance : DecidablePred IsModerate
  | finite .. => inferInstanceAs (Decidable (_ < _))
  | notANumber | infinite _ => inferInstanceAs (Decidable False)

theorem mantissa_lt {x : Float} {negative : Bool} {mantissa : Nat} {exponent : Int}
    (h : ofFloat x = finite negative mantissa exponent) : mantissa < 2 ^ 53 := by
  rw [ofFloat, ofBits] at h
  have hfraction : x.toBits.toNat % Nat.pow 2 52 < 2 ^ 52 := Nat.mod_lt _ (Nat.two_pow_pos 52)
  split at h
  · split at h <;> cases h
  · split at h
    · cases h
      omega
    · cases h
      change 2 ^ 52 + _ < 2 ^ 53
      omega

/-- A number that is not less than `10 ^ 21` is whole. -/
theorem le_of_not_isModerate {mantissa : Nat} {exponent : Int} (hmantissa : mantissa < 2 ^ 53)
    (h : 10 ^ 21 * 2 ^ (-exponent).toNat ≤ mantissa * 2 ^ exponent.toNat) :
    0 ≤ exponent ∧ 10 ^ 21 ≤ mantissa * 2 ^ exponent.toNat := by
  have hone : 1 ≤ 2 ^ (-exponent).toNat := Nat.one_le_two_pow
  have hbound : 10 ^ 21 ≤ mantissa * 2 ^ exponent.toNat := (Nat.le_mul_of_pos_right _ hone).trans h
  refine ⟨?_, hbound⟩
  by_contra hnegative
  rw [Int.toNat_of_nonpos (Int.le_of_not_le hnegative), Nat.pow_zero] at hbound
  omega

end Binary

namespace Fixed

/-- The first digit of a number is not zero, unless the number is. -/
theorem eq_of_head?_toDigits {n : Nat} (h : (Nat.toDigits 10 n).head? = some '0') : Nat.toDigits 10 n = ['0'] := by
  induction n using Nat.strongRecOn with
  | ind n ih =>
    rw [Nat.toDigits_eq_if (by decide)] at h ⊢
    split at h
    next hdigit =>
      rw [if_pos hdigit, Option.some.inj h]
    next hlarge =>
      rw [List.head?_append_of_ne_nil _ Nat.toDigits_ne_nil] at h
      have hzero : Nat.ofDigitChars 10 (Nat.toDigits 10 (n / 10)) 0 = 0 := by
        rw [ih (n / 10) (by omega) h]
        rfl
      rw [Nat.ofDigitChars_ten_toDigits] at hzero
      omega

/-- Where the point is in a count of millionths, and what its digits are. -/
theorem layout_spec (n : Nat) :
    ∃ whole fraction : List Char, (layout n).toList = whole ++ '.' :: fraction ∧ whole ≠ [] ∧
      (whole.head? = some '0' → whole = ['0']) ∧ fraction.length = 6 ∧
      (∀ c ∈ whole ++ fraction, c.isDigit = true) ∧ Decimal.ofDigits (whole ++ fraction) = n := by
  have hfraction : (Nat.toDigits 10 (n % 1000000)).length ≤ 6 :=
    Nat.toDigits_length 10 _ 6 (by decide) (Nat.mod_lt _ (by decide))
  have hdigits {k : Nat} : ∀ c ∈ Nat.toDigits 10 k, c.isDigit = true :=
    fun c hmem => Nat.isDigit_of_mem_toDigits (by decide) (by decide) hmem
  refine ⟨Nat.toDigits 10 (n / 1000000),
    List.replicate (6 - (Nat.toDigits 10 (n % 1000000)).length) '0' ++ Nat.toDigits 10 (n % 1000000),
    ?_, Nat.toDigits_ne_nil, eq_of_head?_toDigits, ?_, ?_, ?_⟩
  · rw [layout, String.toList_ofList, List.append_assoc, List.cons_append]
  · rw [List.length_append, List.length_replicate]
    omega
  · refine List.forall_mem_append.2 ⟨hdigits, List.forall_mem_append.2 ⟨fun c hmem => ?_, hdigits⟩⟩
    rw [List.eq_of_mem_replicate hmem]
    rfl
  · change Nat.ofDigitChars 10 _ 0 = n
    rw [Nat.ofDigitChars_append, Nat.ofDigitChars_append, Nat.ofDigitChars_ten_toDigits,
      Nat.ofDigitChars_replicate_zero, Nat.ofDigitChars_eq_ofDigitChars_zero, Nat.ofDigitChars_ten_toDigits,
      ← Nat.mul_assoc, ← Nat.pow_add, Nat.add_sub_cancel' hfraction]
    exact Nat.div_add_mod n 1000000

theorem isFixedPoint_layout (sign : List Char) (hsign : sign = [] ∨ sign = ['-']) (n : Nat) :
    IsFixedPoint (String.ofList sign ++ layout n) := by
  obtain ⟨whole, fraction, htext, hwhole, -, hfraction, hdigits, -⟩ := layout_spec n
  refine ⟨sign, whole, fraction, ?_, hsign, hwhole, hfraction, hdigits⟩
  rw [String.toList_append, String.toList_ofList, htext, List.append_assoc]

end Fixed

namespace Shortest

theorem digitCount_pos (n : Nat) : 0 < digitCount n := List.length_pos_of_ne_nil Nat.toDigits_ne_nil

theorem lt_pow_digitCount (n : Nat) : n < 10 ^ digitCount n :=
  (Nat.length_toDigits_le_iff (by decide) (digitCount_pos n)).1 (Nat.le_refl _)

theorem pow_le_of_lt_digitCount {n k : Nat} (hk : 0 < k) (h : k < digitCount n) : 10 ^ k ≤ n := by
  by_contra hlt
  exact Nat.not_le_of_lt h ((Nat.length_toDigits_le_iff (by decide) hk).2 (Nat.lt_of_not_le hlt))

theorem lt_digitCount_of_pow_le {n k : Nat} (h : 10 ^ k ≤ n) : k < digitCount n :=
  (Nat.pow_lt_pow_iff_right (by decide)).1 (Nat.lt_of_le_of_lt h (lt_pow_digitCount n))

theorem dropZeros_eq (n : Nat) : n = (dropZeros n).1 * 10 ^ (dropZeros n).2 := by
  fun_induction dropZeros n with
  | case1 n h hlt rest zeros hdropped ih =>
    rw [hdropped] at ih
    rw [Nat.pow_succ, ← Nat.mul_assoc, ← ih]
    omega
  | case2 n h => rw [Nat.pow_zero, Nat.mul_one]

theorem lt_pow_places (n : Nat) : n < 10 ^ (digitCount (dropZeros n).1 + (dropZeros n).2) :=
  calc n = (dropZeros n).1 * 10 ^ (dropZeros n).2 := dropZeros_eq n
    _ < 10 ^ digitCount (dropZeros n).1 * 10 ^ (dropZeros n).2 :=
      Nat.mul_lt_mul_of_pos_right (lt_pow_digitCount _) (Nat.pow_pos (by decide))
    _ = 10 ^ (digitCount (dropZeros n).1 + (dropZeros n).2) := (Nat.pow_add ..).symm

/-- A number with more than 21 places before the point is written with a power of ten. -/
theorem mem_layout {n : Nat} {e : Int} (h : 21 < e + digitCount n) : 'e' ∈ (layout n e).toList := by
  have hplaces : ¬(e + ((Nat.toDigits 10 n).length : Int) ≤ 21) := Int.not_le.2 h
  have hpositive : ¬(e + ((Nat.toDigits 10 n).length : Int) ≤ 0) := by omega
  simp only [layout, hplaces, hpositive, decide_false, Bool.and_false, Bool.false_eq_true, if_false]
  rw [String.toList_ofList]
  exact List.mem_append_right _ List.mem_cons_self

/-- No number in a range that is chosen is farther from its value than the next ones. -/
theorem Range.le_of_nearest? {r : Range} {n : Nat} (h : r.nearest? = some n) : r.value / r.unit ≤ n := by
  simp only [nearest?] at h
  split at h
  · cases h
  · cases h
    exact Nat.le_refl _
  · cases h
    exact Nat.le_succ _
  · cases h
    split
    · exact Nat.le_succ _
    · exact Nat.le_refl _

section Large

variable {mantissa : Nat} {exponent grid : Int}

theorem leadingExponent_eq (h : 0 ≤ exponent) (hpositive : 0 < mantissa * 2 ^ exponent.toNat) :
    leadingExponent mantissa exponent = (digitCount (mantissa * 2 ^ exponent.toNat) : Int) - 1 := by
  have hscaled : Binary.scaled mantissa exponent 0 = (mantissa * 2 ^ exponent.toNat, 1) := by
    simp only [Binary.scaled]
    rw [Int.toNat_of_nonpos (Int.neg_nonpos_of_nonneg h)]
    simp
  simp only [leadingExponent, hscaled, if_pos (Nat.succ_le_of_lt hpositive), Nat.div_one]
  rfl

/-- The units of a range are whole multiples of a power of ten where that is itself whole. -/
theorem Range.ofDouble_div (h : 0 ≤ exponent) (hgrid : 0 ≤ grid) :
    (ofDouble mantissa exponent grid).value / (ofDouble mantissa exponent grid).unit =
      mantissa * 2 ^ exponent.toNat / 10 ^ grid.toNat := by
  obtain ⟨k, rfl⟩ := Int.eq_ofNat_of_zero_le h
  obtain ⟨g, rfl⟩ := Int.eq_ofNat_of_zero_le hgrid
  have hpow : 4 * 2 ^ ((k : Int) - 2).toNat = 2 ^ k * 2 ^ (-((k : Int) - 2)).toNat := by
    match k with
    | 0 | 1 => rfl
    | k + 2 =>
      have hup : (((k + 2 : Nat) : Int) - 2).toNat = k := by omega
      have hdown : (-(((k + 2 : Nat) : Int) - 2)).toNat = 0 := by omega
      rw [hup, hdown, Nat.pow_zero, Nat.mul_one, Nat.pow_add, Nat.mul_comm]
  have hvalue : (ofDouble mantissa k g).value = 2 ^ (-((k : Int) - 2)).toNat * (mantissa * 2 ^ k) := by
    simp only [ofDouble, Binary.scaled]
    have hnone : (-(g : Int)).toNat = 0 := by omega
    change 4 * mantissa * (1 * 2 ^ ((k : Int) - 2).toNat * 10 ^ (-(g : Int)).toNat) = _
    calc 4 * mantissa * (1 * 2 ^ ((k : Int) - 2).toNat * 10 ^ (-(g : Int)).toNat)
        = mantissa * (4 * 2 ^ ((k : Int) - 2).toNat) := by
          rw [hnone, Nat.pow_zero, Nat.mul_one, Nat.one_mul, Nat.mul_comm 4, Nat.mul_assoc]
      _ = 2 ^ (-((k : Int) - 2)).toNat * (mantissa * 2 ^ k) := by
          rw [hpow, ← Nat.mul_assoc, Nat.mul_comm]
  have hunit : (ofDouble mantissa k g).unit = 2 ^ (-((k : Int) - 2)).toNat * 10 ^ g := by
    simp only [ofDouble, Binary.scaled, Int.neg_neg]
    rfl
  rw [hvalue, hunit]
  exact Nat.mul_div_mul_left _ _ (Nat.two_pow_pos _)

/-- The shortest digits of a number that is not less than `10 ^ 21` come to more than 21 places. -/
theorem places_of_digits (h : 0 ≤ exponent) (hlarge : 10 ^ 21 ≤ mantissa * 2 ^ exponent.toNat) :
    21 < (digits mantissa exponent).2 + digitCount (digits mantissa exponent).1 := by
  have hpositive : 0 < mantissa * 2 ^ exponent.toNat := Nat.lt_of_lt_of_le (by decide) hlarge
  have hcount := lt_digitCount_of_pow_le hlarge
  simp only [digits, leadingExponent_eq h hpositive]
  generalize hsearch : List.findSome? _ (List.range 17) = found
  cases found with
  | none =>
    -- No seventeen digits read back: all digits of the mantissa are written.
    have hbelow : mantissa * 2 ^ exponent.toNat < 10 ^ (digitCount mantissa + exponent.toNat) := by
      rw [Nat.pow_add]
      exact Nat.mul_lt_mul_of_lt_of_le (lt_pow_digitCount mantissa) (Nat.pow_le_pow_left (by decide) _)
        (Nat.pow_pos (by decide))
    have hplaces := (Nat.pow_lt_pow_iff_right (by decide)).1 (Nat.lt_of_le_of_lt hlarge hbelow)
    change 21 < exponent + (digitCount mantissa : Int)
    omega
  | some found =>
    obtain ⟨places, hplaces, hfound⟩ := List.exists_of_findSome?_eq_some hsearch
    obtain ⟨n, hnearest, rfl⟩ := Option.map_eq_some_iff.1 hfound
    rw [List.mem_range] at hplaces
    have hle := Range.le_of_nearest? hnearest
    rw [Range.ofDouble_div h (by omega)] at hle
    have hfull : 10 ^ places ≤ n := by
      refine Nat.le_trans ((Nat.le_div_iff_mul_le (Nat.pow_pos (by decide))).2 ?_) hle
      rw [← Nat.pow_add]
      exact pow_le_of_lt_digitCount (by omega) (by omega)
    have hmany := (Nat.pow_lt_pow_iff_right (by decide)).1 (Nat.lt_of_le_of_lt hfull (lt_pow_places n))
    change 21 < _ + ((dropZeros n).2 : Int) + (digitCount (dropZeros n).1 : Int)
    omega

end Large

end Shortest

namespace Fixed

/-- Texts of other numbers are not in fixed point. -/
theorem not_isFixedPoint_text {x : Float} (h : ¬(Binary.ofFloat x).IsModerate) : ¬IsFixedPoint (Shortest.text x) := by
  -- There is a letter in each of them.
  suffices hletter : ∃ c ∈ (Shortest.text x).toList, (c.isDigit || ['.', '-'].contains c) = false by
    intro hfixed
    obtain ⟨c, hmem, hc⟩ := hletter
    rw [hfixed.chars c hmem] at hc
    cases hc
  rw [Shortest.text]
  cases hbits : Binary.ofFloat x with
  | notANumber => exact ⟨'N', by decide, rfl⟩
  | infinite negative =>
    refine ⟨'I', ?_, rfl⟩
    cases negative <;> decide
  | finite negative mantissa exponent =>
    rw [hbits] at h
    obtain ⟨hexponent, hlarge⟩ := Binary.le_of_not_isModerate (Binary.mantissa_lt hbits) (Nat.le_of_not_lt h)
    have hpositive : (mantissa == 0) = false := by
      rw [beq_eq_false_iff_ne]
      rintro rfl
      rw [Nat.zero_mul] at hlarge
      exact absurd hlarge (by decide)
    refine ⟨'e', ?_, rfl⟩
    simp only [hpositive, Bool.false_eq_true, if_false, String.toList_append]
    exact List.mem_append_right _ (Shortest.mem_layout (Shortest.places_of_digits hexponent hlarge))

theorem text_eq {x : Float} {negative : Bool} {mantissa : Nat} {exponent : Int}
    (h : Binary.ofFloat x = .finite negative mantissa exponent) :
    text x = if 10 ^ 21 * 2 ^ (-exponent).toNat ≤ mantissa * 2 ^ exponent.toNat then Shortest.text x
      else
        (if negative && millionths mantissa exponent != 0 then "-" else "") ++
          layout (millionths mantissa exponent) := by
  have hscaled : Binary.scaled mantissa exponent (-21) =
      (mantissa * 2 ^ exponent.toNat, 10 ^ 21 * 2 ^ (-exponent).toNat) := by
    simp only [Binary.scaled]
    rw [Nat.mul_comm (Nat.pow 2 (-exponent).toNat)]
    simp
  rw [text, h]
  simp only [hscaled]

/-- A number is written in fixed point if it is finite and less than `10 ^ 21` apart from its sign, and only
    then. -/
theorem isFixedPoint_text_iff (x : Float) : IsFixedPoint (text x) ↔ (Binary.ofFloat x).IsModerate := by
  by_cases hmoderate : (Binary.ofFloat x).IsModerate
  · refine iff_of_true ?_ hmoderate
    cases hbits : Binary.ofFloat x with
    | notANumber | infinite negative =>
      rw [hbits] at hmoderate
      cases hmoderate
    | finite negative mantissa exponent =>
      rw [hbits] at hmoderate
      rw [text_eq hbits, if_neg (Nat.not_le_of_lt hmoderate)]
      split
      · exact isFixedPoint_layout ['-'] (.inr rfl) _
      · exact isFixedPoint_layout [] (.inl rfl) _
  · refine iff_of_false ?_ hmoderate
    have hshortest : text x = Shortest.text x := by
      cases hbits : Binary.ofFloat x with
      | notANumber | infinite negative => rw [text, hbits]
      | finite negative mantissa exponent =>
        rw [hbits] at hmoderate
        rw [text_eq hbits, if_pos (Nat.le_of_not_lt hmoderate)]
    rw [hshortest]
    exact not_isFixedPoint_text hmoderate

end Fixed

end SvgPage
