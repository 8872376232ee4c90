import Mathlib
import SvgPage.Proofs.Numeric.FixedPoint
import SvgPage.Proofs.Numeric.Ordered
import SvgPage.Proofs.Numeric.UnitInterval
import SvgPage.Proofs.Path.Printing

namespace SvgPage

/-- A multiple of a step that is nearest to a number. Of two multiples that are as near, it is the one farther from
    zero. -/
structure IsNearest (step x value : Rat) : Prop where
  isMultiple : ∃ k : ℤ, value = k * step
  near : ∀ k : ℤ, |value - x| ≤ |k * step - x|
  away : ∀ k : ℤ, |k * step - x| = |value - x| → |k * step| ≤ |value|

namespace IsNearest

variable {step x y v w : Rat}

theorem abs_neg_sub (u x : Rat) : |-u - x| = |u - -x| := by
  rw [← abs_neg, neg_sub, sub_neg_eq_add, sub_neg_eq_add, add_comm]

theorem neg (h : IsNearest step x v) : IsNearest step (-x) (-v) where
  isMultiple := by
    obtain ⟨k, rfl⟩ := h.isMultiple
    exact ⟨-k, by rw [Int.cast_neg, neg_mul]⟩
  near k := by
    have hnear := h.near (-k)
    rw [Int.cast_neg, neg_mul, abs_neg_sub] at hnear
    rwa [abs_neg_sub, neg_neg]
  away k heq := by
    have haway := h.away (-k)
    rw [Int.cast_neg, neg_mul, abs_neg_sub, abs_neg] at haway
    rw [abs_neg_sub, neg_neg] at heq
    rw [abs_neg]
    exact haway heq

theorem scale (h : IsNearest 1 x v) (hstep : 0 < step) : IsNearest step (x * step) (v * step) := by
  have hdistance (u : Rat) : |u * step - x * step| = |u - x| * step := by
    rw [← sub_mul, abs_mul, abs_of_pos hstep]
  refine ⟨?_, fun k => ?_, fun k heq => ?_⟩
  · obtain ⟨k, rfl⟩ := h.isMultiple
    exact ⟨k, by rw [mul_one]⟩
  · have hnear := h.near k
    rw [mul_one] at hnear
    rw [hdistance, hdistance]
    exact mul_le_mul_of_nonneg_right hnear hstep.le
  · rw [hdistance, hdistance, mul_left_inj' hstep.ne'] at heq
    have haway := h.away k
    rw [mul_one] at haway
    rw [abs_mul, abs_mul]
    exact mul_le_mul_of_nonneg_right (haway heq) (abs_nonneg _)

/-- It is at most half a step away. -/
theorem abs_sub_le (h : IsNearest step x v) (hstep : 0 < step) : |v - x| ≤ step / 2 := by
  have hround : |x / step - round (x / step)| ≤ 1 / 2 := abs_sub_round _
  calc |v - x| ≤ |round (x / step) * step - x| := h.near _
    _ = |x / step - round (x / step)| * step := by
      rw [abs_sub_comm, ← abs_of_pos hstep, ← abs_mul, abs_of_pos hstep, sub_mul, div_mul_cancel₀ _ hstep.ne']
    _ ≤ 1 / 2 * step := mul_le_mul_of_nonneg_right hround hstep.le
    _ = step / 2 := by ring

/-- A number is on the side of the nearer one of two others. -/
theorem add_le_of_near (hlt : w < v) (h : |v - x| ≤ |w - x|) : v + w ≤ 2 * x := by
  have hsquares := sq_le_sq.2 h
  have hproduct : (v - w) * (v + w - 2 * x) ≤ 0 := by linarith
  have hside : v + w - 2 * x ≤ 0 := nonpos_of_mul_nonpos_right hproduct (sub_pos.2 hlt)
  linarith

/-- What is nearest to the larger number is not smaller. -/
theorem mono (hx : IsNearest step x v) (hy : IsNearest step y w) (hle : x ≤ y) : v ≤ w := by
  by_contra hgt
  have hlt : w < v := lt_of_not_ge hgt
  obtain ⟨k, hk⟩ := hx.isMultiple
  obtain ⟨l, hl⟩ := hy.isMultiple
  have hleft : |v - x| ≤ |w - x| := hl ▸ hx.near l
  have hright : |w - y| ≤ |v - y| := hk ▸ hy.near k
  -- Both numbers are then in the middle, and so both multiples are as far from zero.
  have hbelow : v + w ≤ 2 * x := add_le_of_near hlt hleft
  have habove : 2 * y ≤ v + w := by
    have hmirrored : |-w - -y| ≤ |-v - -y| := by rwa [abs_neg_sub, abs_neg_sub, neg_neg]
    linarith [add_le_of_near (neg_lt_neg hlt) hmirrored]
  obtain rfl : x = y := by linarith
  have hmiddle : v + w = 2 * x := by linarith
  have htie : |w - x| = |v - x| := by
    rw [← abs_neg (w - x)]
    congr 1
    linarith
  have hvalues : |v| = |w| := by
    have hv : |k * step| ≤ |w| := hy.away k (hk ▸ htie.symm)
    have hw : |l * step| ≤ |v| := hx.away l (hl ▸ htie)
    rw [← hk] at hv
    rw [← hl] at hw
    exact le_antisymm hv hw
  obtain hsame | hopposite := abs_eq_abs.1 hvalues
  · exact hlt.ne' hsame
  · -- Zero would be nearer to the zero between them.
    have hzero : x = 0 := by linarith
    have hnear := hx.near 0
    rw [hzero, Int.cast_zero, zero_mul, sub_zero, sub_zero, abs_zero, abs_nonpos_iff] at hnear
    linarith

/-- A natural number that is less than half a step below a number, or at most half a step above it, is nearest to it. -/
theorem of_half {n : Nat} (hnonneg : 0 ≤ x) (hlow : n ≤ x + 1 / 2) (hhigh : x + 1 / 2 < n + 1) :
    IsNearest 1 x n := by
  -- Numbers below are at least half a step away, and those above are farther.
  have hothers (k : ℤ) : k = n ∨ (k + 1 ≤ (n : Rat) ∧ 1 / 2 ≤ x - k) ∨ 1 / 2 < k - x := by
    obtain hbelow | heq | habove := lt_trichotomy k n
    · have hcast : (k + 1 : Rat) ≤ n := by exact_mod_cast hbelow
      exact .inr (.inl ⟨hcast, by linarith⟩)
    · exact .inl heq
    · have hcast : (n + 1 : Rat) ≤ k := by exact_mod_cast habove
      exact .inr (.inr (by linarith))
  have hhalf : |n - x| ≤ 1 / 2 := abs_le.2 ⟨by linarith, by linarith⟩
  refine ⟨⟨n, by rw [mul_one, Int.cast_natCast]⟩, fun k => ?_, fun k htie => ?_⟩
  · rw [mul_one]
    obtain rfl | ⟨-, hbelow⟩ | habove := hothers k
    · rw [Int.cast_natCast]
    · rw [abs_sub_comm (k : Rat)]
      exact hhalf.trans (hbelow.trans (le_abs_self _))
    · exact hhalf.trans (habove.le.trans (le_abs_self _))
  · rw [mul_one] at htie ⊢
    obtain rfl | ⟨hlt, -⟩ | habove := hothers k
    · rw [Int.cast_natCast]
    · have hdistance : x - k ≤ 1 / 2 := by
        rw [← htie, abs_sub_comm] at hhalf
        exact (le_abs_self _).trans hhalf
      have hpositive : (0 : Rat) ≤ k := by
        have hlast : (-1 : Rat) < k := by linarith
        have hint : -1 < k := by exact_mod_cast hlast
        exact_mod_cast hint
      rw [abs_of_nonneg hpositive, abs_of_nonneg n.cast_nonneg]
      linarith
    · exact absurd ((le_abs_self _).trans (htie.trans_le hhalf)) habove.not_ge

end IsNearest

theorem roundHalfUp_bounds (p : Nat) {q : Nat} (hq : 0 < q) :
    (roundHalfUp p q : Rat) ≤ p / q + 1 / 2 ∧ (p / q + 1 / 2 : Rat) < roundHalfUp p q + 1 := by
  have hquotient : (0 : Rat) < q := Nat.cast_pos.2 hq
  have hlow : roundHalfUp p q * (2 * q) ≤ 2 * p + q := Nat.div_mul_le_self _ _
  have hhigh : 2 * p + q < 2 * q * (roundHalfUp p q + 1) :=
    Nat.lt_mul_div_succ _ (Nat.mul_pos Nat.two_pos hq)
  have hlow' : (roundHalfUp p q : Rat) * (2 * q) ≤ 2 * p + q := by exact_mod_cast hlow
  have hhigh' : (2 * p + q : Rat) < 2 * q * (roundHalfUp p q + 1) := by exact_mod_cast hhigh
  rw [div_add_div _ _ hquotient.ne' two_ne_zero, le_div_iff₀ (by positivity), div_lt_iff₀ (by positivity)]
  constructor <;> linarith

/-- Rounding a quotient that is not negative takes the nearest number. -/
theorem isNearest_roundHalfUp (p : Nat) {q : Nat} (hq : 0 < q) : IsNearest 1 (p / q) (roundHalfUp p q) :=
  have ⟨hlow, hhigh⟩ := roundHalfUp_bounds p hq
  .of_half (by positivity) hlow hhigh

namespace Binary

/-- The number that a finite double denotes. -/
def rational? : Binary → Option Rat
  | finite negative mantissa exponent =>
    some (if negative then -(mantissa * 2 ^ exponent) else mantissa * 2 ^ exponent)
  | notANumber | infinite _ => none

theorem zpow_eq_div {a : Rat} (ha : a ≠ 0) (e : Int) : a ^ e = a ^ e.toNat / a ^ (-e).toNat := by
  rw [← zpow_natCast, ← zpow_natCast, ← zpow_sub₀ ha, Int.toNat_sub_toNat_neg]

theorem scaled_div (n : Nat) (e d : Int) :
    ((scaled n e d).1 / (scaled n e d).2 : Rat) = n * 2 ^ e * 10 ^ d := by
  have hscaled : scaled n e d = (n * 2 ^ e.toNat * 10 ^ d.toNat, 2 ^ (-e).toNat * 10 ^ (-d).toNat) := rfl
  rw [hscaled, zpow_eq_div two_ne_zero, zpow_eq_div (by norm_num : (10 : Rat) ≠ 0)]
  push_cast
  rw [mul_div_mul_comm, mul_div_assoc]

theorem isModerate_iff {number : Binary} {x : Rat} (h : number.rational? = some x) :
    number.IsModerate ↔ |x| < 10 ^ 21 := by
  cases number with
  | notANumber | infinite => cases h
  | finite negative mantissa exponent =>
    have hpositive : (0 : Rat) < 2 ^ (-exponent).toNat := by positivity
    have habs : |x| = mantissa * 2 ^ exponent := by
      have hnonneg : (0 : Rat) ≤ mantissa * 2 ^ exponent := by positivity
      cases h
      cases negative
      · exact abs_of_nonneg hnonneg
      · exact (abs_neg _).trans (abs_of_nonneg hnonneg)
    rw [habs, zpow_eq_div two_ne_zero, ← mul_div_assoc, div_lt_iff₀ hpositive]
    change mantissa * 2 ^ exponent.toNat < 10 ^ 21 * 2 ^ (-exponent).toNat ↔ _
    exact_mod_cast Iff.rfl

end Binary

namespace Double

open Float.Model UnpackedFloat

/-- Mantissa and exponent of a finite double that is not zero: there is a leading one unless the exponent is the
    smallest. -/
structure IsNormalized (m : Nat) (e : Int) : Prop where
  least : -1074 ≤ e
  below : m < 2 ^ 53
  leading : e = -1074 ∨ 2 ^ 52 ≤ m

/-- Without a sign, they are ordered by their exponents first. -/
theorem IsNormalized.mul_zpow_le {m m' : Nat} {e e' : Int} (h : IsNormalized m e) (h' : IsNormalized m' e')
    (hle : (toLex (e, (m : Int)) : Int ×ₗ Int) ≤ toLex (e', (m' : Int))) : (m * 2 ^ e : Rat) ≤ m' * 2 ^ e' := by
  obtain hexponent | ⟨hexponent, hmantissa⟩ := Prod.Lex.toLex_le_toLex.1 hle
  · change e < e' at hexponent
    have hleading : 2 ^ 52 ≤ m' := h'.leading.resolve_left (h.least.trans_lt hexponent).ne'
    have hbelow : (m : Rat) ≤ 2 ^ 53 := by exact_mod_cast h.below.le
    have hpower : (2 : Rat) ^ (e + 1) ≤ 2 ^ e' := zpow_le_zpow_right₀ one_le_two hexponent
    calc (m * 2 ^ e : Rat) ≤ 2 ^ 53 * 2 ^ e := mul_le_mul_of_nonneg_right hbelow (by positivity)
      _ = 2 ^ 52 * 2 ^ (e + 1) := by
        rw [zpow_add_one₀ two_ne_zero]
        ring
      _ ≤ 2 ^ 52 * 2 ^ e' := mul_le_mul_of_nonneg_left hpower (by positivity)
      _ ≤ m' * 2 ^ e' := mul_le_mul_of_nonneg_right (by exact_mod_cast hleading) (by positivity)
  · obtain rfl : e = e' := hexponent
    change (m : Int) ≤ m' at hmantissa
    exact mul_le_mul_of_nonneg_right (by exact_mod_cast hmantissa) (by positivity)

/-- Where a number that a double denotes stands in the order of doubles. -/
inductive Stands : Rat → Int ×ₗ Int ×ₗ Int → Prop
  | zero : Stands 0 (toLex (0, toLex (0, 0)))
  | positive {m : Nat} {e : Int} (h : IsNormalized m e) : Stands (m * 2 ^ e) (toLex (1, toLex (e, (m : Int))))
  | negative {m : Nat} {e : Int} (h : IsNormalized m e) :
    Stands (-(m * 2 ^ e)) (toLex (-1, toLex (-e, -(m : Int))))

theorem Stands.mono {u v : Rat} {a b : Int ×ₗ Int ×ₗ Int} (hu : Stands u a) (hv : Stands v b) (hle : a ≤ b) :
    u ≤ v := by
  rw [← toLex_ofLex a, ← toLex_ofLex b, Prod.Lex.toLex_le_toLex] at hle
  cases hu with
  | zero =>
    cases hv with
    | zero => exact le_rfl
    | positive h' => positivity
    | negative h' => simp at hle
  | @positive m e h =>
    cases hv with
    | zero => simp at hle
    | positive h' => exact h.mul_zpow_le h' (by simpa using hle)
    | negative h' => simp at hle
  | @negative m e h =>
    have hnonneg : (0 : Rat) ≤ m * 2 ^ e := by positivity
    cases hv with
    | zero => exact neg_nonpos.2 hnonneg
    | positive h' => exact (neg_nonpos.2 hnonneg).trans (by positivity)
    | negative h' =>
      refine neg_le_neg (h'.mul_zpow_le h ?_)
      rw [Prod.Lex.toLex_le_toLex]
      simpa [Prod.Lex.toLex_le_toLex, eq_comm] using hle

theorem stands_of_rational {x : Float} {u : Rat} (h : (Binary.ofFloat x).rational? = some u) :
    ∃ a ∈ rank x.toModel.unpack, Stands u a := by
  rw [ofFloat_eq] at h
  cases hx : x.toModel.unpack with
  | notANumber | infinity =>
    rw [hx] at h
    cases h
  | zero s =>
    have hzero : u = 0 := by
      rw [hx] at h
      cases h
      simp
    rw [hzero]
    exact ⟨_, rfl, .zero⟩
  | finite s m e hm =>
    have hform := unpack_finite hx
    have hnormalized : IsNormalized m e := ⟨by omega, by omega, by omega⟩
    rw [hx] at h
    cases h
    cases s with
    | positive => exact ⟨_, rfl, .positive hnormalized⟩
    | negative => exact ⟨_, rfl, .negative hnormalized⟩

/-- The order of doubles is that of the numbers that they denote. -/
theorem rational_mono {x y : Float} {u v : Rat} (hle : x ≤ y) (hu : (Binary.ofFloat x).rational? = some u)
    (hv : (Binary.ofFloat y).rational? = some v) : u ≤ v := by
  rw [le_iff, le_iff_rank] at hle
  obtain ⟨a, ha, b, hb, hab⟩ := hle
  obtain ⟨a', ha', hstands⟩ := stands_of_rational hu
  obtain ⟨b', hb', hstands'⟩ := stands_of_rational hv
  obtain rfl := Option.mem_unique ha ha'
  obtain rfl := Option.mem_unique hb hb'
  exact hstands.mono hstands' hab

end Double

/-- Whether a text as a whole is read as a number. -/
def Denotes (text : String) (value : Rat) : Prop :=
  ∃ decimal, Decimal.scan text.toList = some (decimal, []) ∧ decimal.value = value

theorem Denotes.unique {text : String} {v w : Rat} (hv : Denotes text v) (hw : Denotes text w) : v = w := by
  obtain ⟨d, hd, rfl⟩ := hv
  obtain ⟨d', hd', rfl⟩ := hw
  rw [hd] at hd'
  cases hd'
  rfl

/-- Digits as they stand in a written number. -/
theorem WrittenNumber.exists_digits {cs : List Char} (h : ∀ c ∈ cs, c.isDigit = true) :
    ∃ digits : List (Fin 10), digits.map digit = cs := by
  have hchar (d : Fin 10) : digit d = Char.ofNat (48 + d) := by
    decide +revert
  change cs ∈ Set.range (List.map digit)
  rw [Set.range_list_map]
  intro c hmem
  obtain ⟨hlow, hhigh⟩ := Char.isDigit_iff_toNat.1 (h c hmem)
  change 48 ≤ c.toNat at hlow
  change c.toNat ≤ 57 at hhigh
  refine ⟨⟨c.toNat - 48, by omega⟩, ?_⟩
  rw [hchar]
  change Char.ofNat (48 + (c.toNat - 48)) = c
  rw [Nat.add_sub_cancel' hlow, Char.ofNat_toNat]

theorem WrittenNumber.scan_text (number : WrittenNumber) : Decimal.scan number.text = some (number.decimal, []) := by
  have hends : number.Ends [] := fun c hnone => by cases hnone
  have hfixed := number.scanFixed_text hends
  rw [List.append_nil] at hfixed
  rw [Decimal.scan, hfixed, Option.map_some]
  simp only [Decimal.scanExponent, Int.add_zero]

namespace Fixed

/-- Whether a text is a minus sign or none, digits that start with a zero only where there is no other, a point and six
    digits. -/
def IsTight (text : String) : Prop :=
  ∃ sign whole fraction : List Char, text.toList = sign ++ whole ++ '.' :: fraction ∧ (sign = [] ∨ sign = ['-']) ∧
    whole ≠ [] ∧ (whole.head? = some '0' → whole = ['0']) ∧ fraction.length = 6 ∧
    ∀ c ∈ whole ++ fraction, c.isDigit = true

/-- What a count of millionths stands for, behind a minus sign or none. -/
def value (minus : Bool) (n : Nat) : Rat := if minus then -(n * (1 / 10 ^ 6)) else n * (1 / 10 ^ 6)

/-- A count of millionths, behind a minus sign or none. -/
def signed (minus : Bool) (n : Nat) : String := (if minus then "-" else "") ++ layout n

theorem toList_signed (minus : Bool) (n : Nat) :
    (signed minus n).toList = (if minus then ['-'] else []) ++ (layout n).toList := by
  rw [signed, String.toList_append]
  cases minus <;> rfl

theorem isTight_signed (minus : Bool) (n : Nat) : IsTight (signed minus n) := by
  obtain ⟨whole, fraction, htext, hwhole, hhead, hfraction, hdigits, -⟩ := layout_spec n
  refine ⟨if minus then ['-'] else [], whole, fraction, ?_, ?_, hwhole, hhead, hfraction, hdigits⟩
  · rw [toList_signed, htext, List.append_assoc]
  · cases minus
    · exact .inl rfl
    · exact .inr rfl

theorem head?_signed (minus : Bool) (n : Nat) : (signed minus n).toList.head? = some '-' ↔ minus = true := by
  obtain ⟨whole, fraction, htext, hwhole, -, -, hdigits, -⟩ := layout_spec n
  rw [toList_signed]
  cases minus with
  | true => exact iff_of_true rfl rfl
  | false =>
    obtain ⟨c, rest, rfl⟩ := List.exists_cons_of_ne_nil hwhole
    refine iff_of_false (fun hminus => ?_) Bool.false_ne_true
    rw [htext] at hminus
    have hdigit := hdigits c List.mem_cons_self
    rw [Option.some.inj hminus] at hdigit
    cases hdigit

theorem denotes_signed (minus : Bool) (n : Nat) : Denotes (signed minus n) (value minus n) := by
  obtain ⟨whole, fraction, htext, hwhole, -, hfraction, hdigits, hn⟩ := layout_spec n
  obtain ⟨hleft, hright⟩ := List.forall_mem_append.1 hdigits
  obtain ⟨whole, rfl⟩ := WrittenNumber.exists_digits hleft
  obtain ⟨fraction, rfl⟩ := WrittenNumber.exists_digits hright
  rw [ne_eq, List.map_eq_nil_iff] at hwhole
  let number : WrittenNumber := ⟨if minus then some true else none, whole, some fraction, .inl hwhole⟩
  have hnumber : (signed minus n).toList = number.text := by
    rw [toList_signed, htext]
    cases minus <;> rfl
  have hdecimal : number.decimal = ⟨minus, n, -6⟩ := by
    have hnegative : number.decimal.negative = minus := by cases minus <;> rfl
    have hdigits : number.decimal.digits = n := by
      rw [← hn, ← List.map_append, WrittenNumber.ofDigits_map]
      rfl
    have hexponent : number.decimal.exponent = -6 := by
      rw [List.length_map] at hfraction
      exact congrArg (fun places : Nat => -(places : Int)) hfraction
    rw [← hnegative, ← hdigits, ← hexponent]
  have hpower : (n * 10 ^ (-6 : Int) : Rat) = n * (1 / 10 ^ 6) := by norm_num
  refine ⟨number.decimal, by rw [hnumber, number.scan_text], ?_⟩
  rw [hdecimal]
  change (if minus then -(n * 10 ^ (-6 : Int) : Rat) else n * 10 ^ (-6 : Int)) = value minus n
  rw [hpower]
  rfl

theorem value_neg_iff {minus : Bool} {n : Nat} (h : minus = true → n ≠ 0) : value minus n < 0 ↔ minus = true := by
  cases minus with
  | true =>
    have hpositive : (0 : Rat) < n := Nat.cast_pos.2 (Nat.pos_of_ne_zero (h rfl))
    refine iff_of_true ?_ rfl
    exact neg_neg_of_pos (by positivity)
  | false =>
    have hnonneg : (0 : Rat) ≤ n * (1 / 10 ^ 6) := by positivity
    exact iff_of_false hnonneg.not_gt Bool.false_ne_true

theorem isNearest_millionths (mantissa : Nat) (exponent : Int) :
    IsNearest (1 / 10 ^ 6) (mantissa * 2 ^ exponent) (millionths mantissa exponent * (1 / 10 ^ 6)) := by
  have hpositive : 0 < (Binary.scaled mantissa exponent 6).2 :=
    Nat.mul_pos (Nat.two_pow_pos _) (Nat.pow_pos (by decide))
  have hstep : (0 : Rat) < 1 / 10 ^ 6 := by positivity
  have hnearest := (isNearest_roundHalfUp (Binary.scaled mantissa exponent 6).1 hpositive).scale hstep
  have hunit : (10 : Rat) ^ (6 : Int) * (1 / 10 ^ 6) = 1 := by norm_num
  rw [Binary.scaled_div, mul_assoc, hunit, mul_one] at hnearest
  exact hnearest

/-- A finite number below the limit is written as a count of millionths, with a sign only if there are any. -/
theorem exists_signed {x : Float} {u : Rat} (hu : (Binary.ofFloat x).rational? = some u) (hbound : |u| < 10 ^ 21) :
    ∃ minus n, text x = signed minus n ∧ (minus = true → n ≠ 0) ∧ IsNearest (1 / 10 ^ 6) u (value minus n) := by
  have hmoderate := (Binary.isModerate_iff hu).2 hbound
  cases hbits : Binary.ofFloat x with
  | notANumber | infinite =>
    rw [hbits] at hu
    cases hu
  | finite negative mantissa exponent =>
    rw [hbits] at hu hmoderate
    let n := millionths mantissa exponent
    have hnearest : IsNearest (1 / 10 ^ 6) (mantissa * 2 ^ exponent) (n * (1 / 10 ^ 6)) :=
      isNearest_millionths mantissa exponent
    refine ⟨negative && n != 0, n, ?_, ?_, ?_⟩
    · rw [text_eq hbits, if_neg (Nat.not_le_of_lt hmoderate)]
      rfl
    · rw [Bool.and_eq_true, bne_iff_ne]
      exact And.right
    · cases hu
      cases negative with
      | false => exact hnearest
      | true =>
        have hvalue : value (true && n != 0) n = -(n * (1 / 10 ^ 6)) := by
          by_cases hzero : n = 0 <;> simp [value, hzero]
        rw [hvalue]
        exact hnearest.neg

/-- A finite number below `10 ^ 21` is written as the nearest multiple of a millionth, of two the one farther from
    zero, with a minus sign if what is written is negative. What is written for a larger number is not smaller. -/
theorem text_rounds {x : Float} {u : Rat} (hu : (Binary.ofFloat x).rational? = some u) (hbound : |u| < 10 ^ 21) :
    IsTight (text x) ∧ ∃ v, Denotes (text x) v ∧ IsNearest (1 / 10 ^ 6) u v ∧
      ((text x).toList.head? = some '-' ↔ v < 0) ∧ |v - u| ≤ 5 / 10 ^ 7 ∧
      ∀ (y : Float) (u' w : Rat), x ≤ y → (Binary.ofFloat y).rational? = some u' → |u'| < 10 ^ 21 →
        Denotes (text y) w → v ≤ w := by
  obtain ⟨minus, n, htext, hminus, hnearest⟩ := exists_signed hu hbound
  rw [htext]
  refine ⟨isTight_signed minus n, value minus n, denotes_signed minus n, hnearest, ?_, ?_, ?_⟩
  · rw [head?_signed, value_neg_iff hminus]
  · have hhalf : (1 / 10 ^ 6 / 2 : Rat) = 5 / 10 ^ 7 := by norm_num
    exact (hnearest.abs_sub_le (by positivity)).trans_eq hhalf
  · intro y u' w hle hu' hbound' hw
    obtain ⟨minus', n', htext', -, hnearest'⟩ := exists_signed hu' hbound'
    rw [htext'] at hw
    rw [hw.unique (denotes_signed minus' n')]
    exact hnearest.mono hnearest' (Double.rational_mono hle hu hu')

/-- In the middle of two multiples, it is the one farther from zero. -/
theorem text_rounds_of_half :
    (Binary.ofFloat (-0.0078125)).rational? = some (-1 / 128) ∧ |(-1 / 128 : Rat)| < 10 ^ 21 ∧
      text (-0.0078125) = "-0.007813" ∧ IsTight (text (-0.0078125)) ∧
      ∃ v, Denotes (text (-0.0078125)) v ∧ IsNearest (1 / 10 ^ 6) (-1 / 128) v ∧
        ((text (-0.0078125)).toList.head? = some '-' ↔ v < 0) ∧ |v - -1 / 128| ≤ 5 / 10 ^ 7 ∧
        ∀ (y : Float) (u' w : Rat), -0.0078125 ≤ y → (Binary.ofFloat y).rational? = some u' → |u'| < 10 ^ 21 →
          Denotes (text y) w → v ≤ w := by
  have hbits : Binary.ofFloat (-0.0078125) = .finite true (2 ^ 52) (-59) := by
    decide +kernel
  have hrational : (Binary.ofFloat (-0.0078125)).rational? = some (-1 / 128) := by
    rw [hbits, Binary.rational?]
    norm_num
  have hbound : |(-1 / 128 : Rat)| < 10 ^ 21 := by norm_num
  exact ⟨hrational, hbound, by decide +kernel, text_rounds hrational hbound⟩

end Fixed

end SvgPage
