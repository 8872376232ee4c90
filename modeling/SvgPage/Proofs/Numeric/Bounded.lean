import Mathlib
import SvgPage.Proofs.Numeric.Laws

namespace SvgPage

/-- Whether a number tells how far something covers what lies under it, from not at all to completely. -/
def Scalar.IsAlpha {α : Type} [Scalar α] (x : α) : Prop := 0 ≤ x ∧ x ≤ 1

instance {α : Type} [Scalar α] (x : α) : Decidable (Scalar.IsAlpha x) :=
  inferInstanceAs (Decidable (0 ≤ x ∧ x ≤ 1))

/-- Numbers of which those between zero and one stay there when they are multiplied, and all others can be moved
    there. -/
class Scalar.Bounded (α : Type) [Scalar α] : Prop where
  isAlpha_one : Scalar.IsAlpha (1 : α)
  isAlpha_mul : ∀ {x y : α}, Scalar.IsAlpha x → Scalar.IsAlpha y → Scalar.IsAlpha (x * y)
  isAlpha_clamp : ∀ {x : α}, (x == x) = true → Scalar.IsAlpha (Scalar.clamp x 0 1)
  isFinite_ofNat : ∀ {n : Nat}, n ≤ 255 → Scalar.isFinite (Scalar.ofNat n : α) = true
  beq_self : ∀ {x : α}, Scalar.isFinite x = true → (x == x) = true
  beq_self_div : ∀ {x : α} {n : Nat}, Scalar.isFinite x = true → 0 < n → n ≤ 255 →
    (x / Scalar.ofNat n == x / Scalar.ofNat n) = true

namespace Double

open Float.Model UnpackedFloat

/-- Numbers that are at most one, and not below zero. -/
inductive AtMostOne : UnpackedFloat → Prop
  | zero (sign) : AtMostOne (.zero sign)
  | finite {mantissa exponent} (hmantissa) (hexponent : exponent ≤ 0)
      (hvalue : mantissa ≤ 2 ^ (-exponent).toNat) : AtMostOne (.finite .positive mantissa exponent hmantissa)

section Round

theorem shiftRight_zero (em : ExtendedMantissa) : em >>> 0 = em := rfl

theorem shiftRight_succ (em : ExtendedMantissa) (n : Nat) : em >>> (n + 1) = (em >>> n).shiftRightOne := rfl

theorem mantissa_shiftRight (em : ExtendedMantissa) (n : Nat) :
    (em >>> n).mantissa = em.mantissa / 2 ^ n := by
  induction n with
  | zero => rw [shiftRight_zero, Nat.pow_zero, Nat.div_one]
  | succ n ih =>
    rw [shiftRight_succ, ExtendedMantissa.shiftRightOne, ih, Nat.div_div_eq_div_mul, Nat.pow_succ]

/-- Nothing is lost of a multiple of the last place. -/
theorem shiftRight_mul_two_pow (m n : Nat) :
    ExtendedMantissa.mk (m * 2 ^ n) false false >>> n = ⟨m, false, false⟩ := by
  induction n generalizing m with
  | zero => rw [shiftRight_zero, Nat.pow_zero, Nat.mul_one]
  | succ n ih =>
    rw [shiftRight_succ, Nat.pow_succ', ← Nat.mul_assoc, ih, ExtendedMantissa.shiftRightOne]
    simp

theorem roundedMantissa_le (em : ExtendedMantissa) : em.roundedMantissa ≤ em.mantissa + 1 := by
  obtain ⟨m, round, sticky⟩ := em
  cases round <;> cases sticky
  all_goals
    simp only [ExtendedMantissa.roundedMantissa, ExtendedMantissa.accuracy, Accuracy.roundToNearestEven]
    omega

/-- Rounding does not lead beyond a bound that needs no rounding. -/
theorem roundedMantissa_shiftRight_le {m bound n : Nat} (h : m ≤ bound * 2 ^ n) :
    (ExtendedMantissa.mk m false false >>> n).roundedMantissa ≤ bound := by
  obtain hbelow | heq := Nat.lt_or_eq_of_le h
  · apply (roundedMantissa_le _).trans
    rw [mantissa_shiftRight]
    exact Nat.div_lt_of_lt_mul (by rwa [Nat.mul_comm])
  · rw [heq, shiftRight_mul_two_pow]
    exact Nat.le_refl bound

theorem targetExponent_le {m : Nat} {e : Int} (he : e ≤ 0) (hvalue : m ≤ 2 ^ (-e).toNat) :
    Format.binary64.targetExponent (totalExponent m e) ≤ -52 := by
  have hlog : m.log2 ≤ (-e).toNat := by
    by_cases hm : m = 0
    · rw [hm, Nat.log2_zero]
      exact Nat.zero_le _
    · have hlt := (Nat.log2_lt hm).2 (hvalue.trans_lt (Nat.pow_lt_pow_succ Nat.one_lt_two))
      exact Nat.le_of_lt_succ hlt
  simp only [Format.targetExponent, totalExponent, Format.mantissaBits, Format.minExponent]
  omega

theorem atMostOne_of_le {m : Nat} {e : Int} (he : e ≤ 0) (hvalue : m ≤ 2 ^ (-e).toNat) :
    AtMostOne (if h : m = 0 then .zero .positive else .finite .positive m e (Nat.pos_of_ne_zero h)) := by
  split
  · exact .zero _
  · exact .finite _ he hvalue

/-- A number that is at most one is rounded to such a number. -/
theorem roundWithAccuracy_atMostOne {m : Nat} {e : Int} (he : e ≤ 0) (hvalue : m ≤ 2 ^ (-e).toNat) :
    AtMostOne (roundWithAccuracy Format.binary64 .positive m e .exact) := by
  -- Both shifts divide the bound on the mantissa as they raise the exponent.
  have hshift {m : Nat} {e : Int} (he : e ≤ 0) (hvalue : m ≤ 2 ^ (-e).toNat) :
      let shift := (Format.binary64.targetExponent (totalExponent m e) - e).toNat
      e + shift ≤ 0 ∧ m ≤ 2 ^ (-(e + shift)).toNat * 2 ^ shift := by
    intro shift
    have htarget := targetExponent_le he hvalue
    have hexponent : e + shift ≤ 0 := by omega
    refine ⟨hexponent, hvalue.trans_eq ?_⟩
    rw [← Nat.pow_add]
    congr 1
    omega
  obtain ⟨hfirst, hbound⟩ := hshift he hvalue
  obtain ⟨hsecond, hfinal⟩ := hshift hfirst (roundedMantissa_shiftRight_le hbound)
  refine atMostOne_of_le hsecond ?_
  rw [mantissa_shiftRight]
  exact Nat.div_le_of_le_mul (by rwa [Nat.mul_comm])

theorem mul_atMostOne {x y : UnpackedFloat} (hx : AtMostOne x) (hy : AtMostOne y) :
    AtMostOne (UnpackedFloat.mul Format.binary64 x y) := by
  cases hx with
  | zero s =>
    cases hy with
    | zero t => exact .zero _
    | finite => exact .zero _
  | @finite m e hm he hvalue =>
    cases hy with
    | zero t => exact .zero _
    | @finite m' e' hm' he' hvalue' =>
      refine roundWithAccuracy_atMostOne (by omega) ((Nat.mul_le_mul hvalue hvalue').trans_eq ?_)
      rw [← Nat.pow_add]
      congr 1
      omega

end Round

section Pack

/-- A mantissa with the leading one that is not written. -/
theorem toNat_one_append (mantissa : BitVec 52) :
    (1#1 ++ mantissa : BitVec (1 + 52)).toNat = 2 ^ 52 + mantissa.toNat := by
  rw [BitVec.toNat_append, ← Nat.shiftLeft_add_eq_or_of_lt mantissa.isLt]
  rfl

/-- What the components of a finite number without a sign denote. -/
theorem unpack_packComponents {exponent : BitVec 11} (hexponent : exponent ≠ -1#11) (mantissa : BitVec 52) :
    let unpacked :=
      UnpackedFloat.unpack Format.binary64 (packComponents Format.binary64 .positive exponent mantissa)
    unpacked = .zero .positive ∨
      (∃ h, unpacked = .finite .positive mantissa.toNat (-1074) h) ∨
      ∃ h, unpacked = .finite .positive (2 ^ 52 + mantissa.toNat) (exponent.toNat - 1075) h := by
  simp only [UnpackedFloat.unpack, unpackExponent_packComponents, unpackMantissa_packComponents,
    unpackSign_packComponents, Sign.ofBitVec_toBitVec]
  rw [if_neg hexponent]
  split
  · split
    · exact .inl rfl
    next hzero hmantissa =>
      subst hzero
      exact .inr (.inl ⟨Nat.pos_of_ne_zero fun hnone => hmantissa (BitVec.eq_of_toNat_eq hnone), rfl⟩)
  · refine .inr (.inr ⟨by omega, ?_⟩)
    rw [UnpackedFloat.finite.injEq]
    exact ⟨rfl, toNat_one_append mantissa, rfl⟩

theorem packComponents_atMostOne {exponent : BitVec 11} {mantissa : BitVec 52}
    (h : exponent.toNat < 1023 ∨ exponent.toNat = 1023 ∧ mantissa.toNat = 0) :
    AtMostOne
      (UnpackedFloat.unpack Format.binary64 (packComponents Format.binary64 .positive exponent mantissa)) := by
  have hexponent : exponent ≠ -1#11 := by
    rintro rfl
    simp at h
  have hmantissa := mantissa.isLt
  obtain hunpacked | ⟨_, hunpacked⟩ | ⟨_, hunpacked⟩ := unpack_packComponents hexponent mantissa
  all_goals rw [hunpacked]
  · exact .zero _
  · refine .finite _ (by decide) (hmantissa.le.trans ?_)
    exact Nat.pow_le_pow_right Nat.two_pos (by decide)
  · refine .finite _ (by omega) ?_
    obtain hbelow | ⟨hexact, hnone⟩ := h
    · have hbound : 2 ^ 52 + mantissa.toNat ≤ 2 ^ 53 := by omega
      exact hbound.trans (Nat.pow_le_pow_right Nat.two_pos (by omega))
    · rw [hexact, hnone]
      decide

/-- A number that is at most one is still so when it is packed and unpacked, whatever form it has. -/
theorem pack_atMostOne {x : UnpackedFloat} (h : AtMostOne x) : AtMostOne (Float.Model.pack x).unpack := by
  rw [Float.Model.unpack, Float.Model.pack, UInt64.toBitVec_ofBitVec]
  cases h with
  | zero s =>
    rw [UnpackedFloat.pack, unpack_packedZero]
    exact .zero _
  | @finite m e hm he hvalue =>
    let biased := (e + 1023 + 52).toNat
    have hfinite : ¬2 ^ 11 ≤ biased + 1 := by omega
    by_cases hlog : m.log2 + 1 = 53
    · have hpacked : UnpackedFloat.pack Format.binary64 (.finite .positive m e hm) =
          packComponents Format.binary64 .positive (BitVec.ofNat 11 biased) (BitVec.ofNat 52 m) :=
        (if_neg hfinite).trans (if_pos hlog)
      have hlow : 2 ^ 52 ≤ m := by
        have h := Nat.log2_self_le hm.ne'
        rwa [Nat.succ.inj hlog] at h
      have hexponent : e ≤ -52 := by
        have h := (Nat.pow_le_pow_iff_right Nat.one_lt_two).1 (hlow.trans hvalue)
        omega
      have hbiased : biased < 2 ^ 11 := by omega
      rw [hpacked]
      refine packComponents_atMostOne ?_
      rw [BitVec.toNat_ofNat, Nat.mod_eq_of_lt hbiased, BitVec.toNat_ofNat]
      obtain hbelow | rfl := hexponent.lt_or_eq
      · exact .inl (by omega)
      · have hexact : m = 2 ^ 52 := Nat.le_antisymm hvalue hlow
        exact .inr ⟨rfl, by rw [hexact]; rfl⟩
    · have hpacked : UnpackedFloat.pack Format.binary64 (.finite .positive m e hm) =
          packComponents Format.binary64 .positive 0#11 (BitVec.ofNat 52 m) :=
        (if_neg hfinite).trans (if_neg hlog)
      rw [hpacked]
      exact packComponents_atMostOne (.inl (by decide))

/-- The form that numbers are unpacked to. -/
theorem unpack_finite {bits : BitVec 64} {sign : Sign} {m : Nat} {e : Int} {hm : 0 < m}
    (h : UnpackedFloat.unpack Format.binary64 bits = .finite sign m e hm) :
    (e = -1074 ∧ m < 2 ^ 52) ∨ (-1074 ≤ e ∧ 2 ^ 52 ≤ m ∧ m < 2 ^ 53) := by
  simp only [UnpackedFloat.unpack] at h
  split at h
  · split at h <;> cases h
  · split at h
    next hexponent =>
      split at h
      · cases h
      · cases h
        exact .inl ⟨by rw [hexponent]; rfl, (@unpackMantissa Format.binary64 bits).isLt⟩
    next hexponent =>
      cases h
      have hpos : 0 < (@unpackExponent Format.binary64 bits).toNat :=
        Nat.pos_of_ne_zero fun hnone => hexponent (BitVec.eq_of_toNat_eq hnone)
      refine .inr ⟨?_, ?_, BitVec.isLt _⟩
      · simp only [Format.exponentBias]
        omega
      · rw [toNat_one_append]
        exact Nat.le_add_right _ _

end Pack

section Order

theorem le_iff (x y : Float) : x ≤ y ↔ x.toModel.unpack.le y.toModel.unpack = true := by
  have hle : x ≤ y ↔ decide (x.toModel ≤ y.toModel) = true := .rfl
  rw [hle, decide_eq_true_iff]
  exact .rfl

theorem unpack_zero : (Scalar.ofDecimal 0 0 : Float).toModel.unpack = .zero .positive := by
  rfl

theorem unpack_one :
    (Scalar.ofDecimal 1 0 : Float).toModel.unpack = .finite .positive (2 ^ 52) (-52) (by decide) := by
  rfl

/-- A positive number in the form of unpacked ones compares with one by its exponent first. -/
theorem le_one_iff {bits : BitVec 64} {m : Nat} {e : Int} {hm : 0 < m}
    (h : UnpackedFloat.unpack Format.binary64 bits = .finite .positive m e hm) :
    (UnpackedFloat.finite .positive m e hm).le (.finite .positive (2 ^ 52) (-52) (by decide)) = true ↔
      e ≤ 0 ∧ m ≤ 2 ^ (-e).toNat := by
  have hcompare : (UnpackedFloat.finite .positive m e hm).le (.finite .positive (2 ^ 52) (-52) (by decide)) =
      ((compare e (-52)).then (compare m (2 ^ 52))).isLE := rfl
  rw [hcompare]
  have hform := unpack_finite h
  obtain hbelow | rfl | habove := Int.lt_trichotomy e (-52)
  · rw [Int.compare_eq_lt.2 hbelow]
    refine iff_of_true rfl ⟨by omega, ?_⟩
    have hlimit : m ≤ 2 ^ 53 := by omega
    exact hlimit.trans (Nat.pow_le_pow_right Nat.two_pos (by omega))
  · rw [Int.compare_eq_eq.2 rfl, Ordering.then, Nat.isLE_compare]
    exact ⟨fun hle => ⟨by decide, hle⟩, And.right⟩
  · rw [Int.compare_eq_gt.2 habove]
    refine iff_of_false Bool.false_ne_true fun ⟨hexponent, hvalue⟩ => ?_
    have hlow : 2 ^ 52 ≤ m := by omega
    have hplaces := (Nat.pow_le_pow_iff_right Nat.one_lt_two).1 (hlow.trans hvalue)
    omega

/-- The numbers between zero and one are those that are at most one and not below zero. -/
theorem isAlpha_iff (x : Float) : Scalar.IsAlpha x ↔ AtMostOne x.toModel.unpack := by
  have hbounds : Scalar.IsAlpha x ↔ (UnpackedFloat.zero .positive).le x.toModel.unpack = true ∧
      x.toModel.unpack.le (.finite .positive (2 ^ 52) (-52) (by decide)) = true := by
    rw [← unpack_zero, ← unpack_one]
    exact and_congr (le_iff _ _) (le_iff _ _)
  rw [hbounds]
  cases hx : x.toModel.unpack with
  | notANumber => exact iff_of_false (fun h => Bool.false_ne_true h.1) nofun
  | infinity s =>
    cases s with
    | negative => exact iff_of_false (fun h => Bool.false_ne_true h.1) nofun
    | positive => exact iff_of_false (fun h => Bool.false_ne_true h.2) nofun
  | zero s => exact iff_of_true ⟨rfl, rfl⟩ (.zero s)
  | finite s m e hm =>
    cases s with
    | negative => exact iff_of_false (fun h => Bool.false_ne_true h.1) nofun
    | positive =>
      rw [le_one_iff hx]
      refine ⟨fun ⟨_, hexponent, hvalue⟩ => .finite hm hexponent hvalue, fun h => ?_⟩
      cases h with
      | finite _ hexponent hvalue => exact ⟨rfl, hexponent, hvalue⟩

theorem compare_swap (x y : UnpackedFloat) : y.compare x = (x.compare y).map Ordering.swap := by
  cases x with
  | notANumber => cases y <;> rfl
  | infinity s =>
    cases y with
    | infinity t => cases s <;> cases t <;> rfl
    | _ => cases s <;> rfl
  | zero s =>
    cases y with
    | infinity t => cases t <;> rfl
    | finite t => cases t <;> rfl
    | _ => rfl
  | finite s m e hm =>
    cases y with
    | notANumber => cases s <;> rfl
    | infinity t => cases s <;> cases t <;> rfl
    | zero t => cases s <;> rfl
    | finite t m' e' hm' =>
      have hswap : (compare e' e).then (compare m' m) = ((compare e e').then (compare m m')).swap := by
        rw [Ordering.swap_then, Int.compare_swap, Nat.compare_swap]
      cases s <;> cases t
      · exact congrArg (some ∘ Ordering.swap) hswap
      · rfl
      · rfl
      · exact congrArg some hswap

theorem compare_eq_none {x y : UnpackedFloat} (h : x.compare y = none) :
    x = .notANumber ∨ y = .notANumber := by
  unfold UnpackedFloat.compare at h
  split at h
  · exact .inl rfl
  · exact .inr rfl
  all_goals cases h

variable {x y : Float}

theorem lt_iff : x < y ↔ x.toModel.unpack.compare y.toModel.unpack = some .lt := by
  have hlt : x < y ↔ decide (x.toModel < y.toModel) = true := .rfl
  have hcompare : x.toModel < y.toModel ↔
      (x.toModel.unpack.compare y.toModel.unpack == some .lt) = true := .rfl
  rw [hlt, decide_eq_true_iff, hcompare, beq_iff_eq]

theorem beq_self_iff : (x == x) = true ↔ x.toModel.unpack ≠ .notANumber := by
  have hbeq : (x == x) = x.toModel.unpack.beq x.toModel.unpack := rfl
  rw [hbeq, beq_iff_ne_notANumber_and_eq]
  exact ⟨And.left, fun h => ⟨h, h, .inl rfl⟩⟩

theorem le_of_lt (h : x < y) : x ≤ y := by
  rw [le_iff, UnpackedFloat.le, lt_iff.1 h]
  rfl

/-- Numbers are ordered. -/
theorem le_of_not_gt (hx : (x == x) = true) (hy : (y == y) = true) (h : ¬y < x) : x ≤ y := by
  rw [lt_iff, compare_swap x.toModel.unpack] at h
  rw [le_iff, UnpackedFloat.le]
  cases hcompare : x.toModel.unpack.compare y.toModel.unpack with
  | none =>
    obtain hnone | hnone := compare_eq_none hcompare
    · exact absurd hnone (beq_self_iff.1 hx)
    · exact absurd hnone (beq_self_iff.1 hy)
  | some order =>
    rw [hcompare] at h
    cases order with
    | gt => exact absurd rfl h
    | _ => rfl

end Order

section Clamp

theorem zero_beq : ((Scalar.ofDecimal 0 0 : Float) == Scalar.ofDecimal 0 0) = true := by
  decide +kernel

theorem one_beq : ((Scalar.ofDecimal 1 0 : Float) == Scalar.ofDecimal 1 0) = true := by
  decide +kernel

variable {x : Float}

/-- What is moved above a number is a number. -/
theorem max_zero (h : (x == x) = true) :
    Scalar.ofDecimal 0 0 ≤ max x (Scalar.ofDecimal 0 0) ∧
      (max x (Scalar.ofDecimal 0 0) == max x (Scalar.ofDecimal 0 0)) = true := by
  have hzero : (Scalar.ofDecimal 0 0 : Float) ≤ Scalar.ofDecimal 0 0 := by
    decide +kernel
  have hnumbers : (x != x || (Scalar.ofDecimal 0 0 : Float) != Scalar.ofDecimal 0 0) = false := by
    rw [bne, bne, h, zero_beq]
    rfl
  rw [max, hnumbers]
  simp only [Bool.false_eq_true, if_false]
  split
  · exact ⟨hzero, zero_beq⟩
  next hnonneg =>
    split
    next hpos => exact ⟨le_of_lt hpos, h⟩
    · split
      · exact ⟨hzero, zero_beq⟩
      · exact ⟨le_of_not_gt zero_beq h hnonneg, h⟩

theorem isAlpha_clamp (h : (x == x) = true) : Scalar.IsAlpha (Scalar.clamp x 0 1) := by
  obtain ⟨hnonneg, hnumber⟩ := max_zero h
  have hone : Scalar.IsAlpha (Scalar.ofDecimal 1 0 : Float) := ⟨by decide +kernel, by decide +kernel⟩
  have hclamp : Scalar.clamp x 0 1 = min (max x (Scalar.ofDecimal 0 0)) (Scalar.ofDecimal 1 0) := rfl
  rw [hclamp]
  generalize max x (Scalar.ofDecimal 0 0) = y at hnonneg hnumber
  have hnumbers : (y != y || (Scalar.ofDecimal 1 0 : Float) != Scalar.ofDecimal 1 0) = false := by
    rw [bne, bne, hnumber, one_beq]
    rfl
  rw [min, hnumbers]
  simp only [Bool.false_eq_true, if_false]
  split
  next hbelow => exact ⟨hnonneg, le_of_lt hbelow⟩
  · split
    · exact hone
    next hlimit =>
      split
      · exact ⟨hnonneg, le_of_not_gt hnumber one_beq hlimit⟩
      · exact hone

end Clamp

section Finite

theorem unpack_cases (bits : BitVec 64) :
    @unpackExponent Format.binary64 bits = -1#11 ∨
      (∃ sign, UnpackedFloat.unpack Format.binary64 bits = .zero sign) ∨
      ∃ sign m e hm, UnpackedFloat.unpack Format.binary64 bits = .finite sign m e hm := by
  by_cases hexponent : @unpackExponent Format.binary64 bits = -1#11
  · exact .inl hexponent
  · right
    simp only [UnpackedFloat.unpack]
    rw [if_neg hexponent]
    split
    · split
      · exact .inl ⟨_, rfl⟩
      next hmantissa =>
        have hpos : 0 < (@unpackMantissa Format.binary64 bits).toNat :=
          Nat.pos_of_ne_zero fun hnone => hmantissa (BitVec.eq_of_toNat_eq hnone)
        exact .inr ⟨_, _, _, hpos, rfl⟩
    · have hpos : 0 < (1#1 ++ @unpackMantissa Format.binary64 bits : BitVec (1 + 52)).toNat := by
        rw [toNat_one_append]
        exact Nat.add_pos_left (by decide) _
      exact .inr ⟨_, _, _, hpos, rfl⟩

/-- A finite number is unpacked to one. -/
theorem unpack_of_isFinite {x : Float} (h : Scalar.isFinite x = true) :
    (∃ sign, x.toModel.unpack = .zero sign) ∨ ∃ sign m e hm, x.toModel.unpack = .finite sign m e hm := by
  refine (unpack_cases x.toBits.toBitVec).resolve_left fun hexponent => ?_
  have hfield : (@unpackExponent Format.binary64 x.toBits.toBitVec).toNat =
      x.toBits.toNat / Nat.pow 2 52 % Nat.pow 2 11 := by
    rw [unpackExponent, BitVec.toNat_cast, BitVec.extractLsb_toNat, Nat.shiftRight_eq_div_pow]
    rfl
  have hbiased : (x.toBits.toNat / Nat.pow 2 52 % Nat.pow 2 11 == Nat.pow 2 11 - 1) = true := by
    rw [← hfield, hexponent]
    rfl
  have hspecial : Binary.ofFloat x = .notANumber ∨ ∃ negative, Binary.ofFloat x = .infinite negative := by
    simp only [Binary.ofFloat, Binary.ofBits, hbiased, if_true]
    split
    · exact .inr ⟨_, rfl⟩
    · exact .inl rfl
  obtain hspecial | ⟨negative, hspecial⟩ := hspecial
  all_goals
    simp only [Scalar.isFinite, hspecial] at h
    cases h

theorem unpack_ne_notANumber {sign : Sign} {exponent : BitVec 11} {mantissa : BitVec 52}
    (h : exponent = -1#11 → mantissa = 0#52) :
    UnpackedFloat.unpack Format.binary64 (packComponents Format.binary64 sign exponent mantissa) ≠
      .notANumber := by
  simp only [UnpackedFloat.unpack, unpackExponent_packComponents, unpackMantissa_packComponents]
  split
  next hexponent =>
    rw [if_pos (h hexponent)]
    rintro ⟨⟩
  · split
    · split <;> rintro ⟨⟩
    · rintro ⟨⟩

/-- Packing makes no number something else than a number. -/
theorem pack_ne_notANumber {x : UnpackedFloat} (h : x ≠ .notANumber) :
    (Float.Model.pack x).unpack ≠ .notANumber := by
  rw [Float.Model.unpack, Float.Model.pack, UInt64.toBitVec_ofBitVec]
  fun_cases UnpackedFloat.pack Format.binary64 x with
  | case1 => exact absurd rfl h
  | case2 s => exact unpack_ne_notANumber fun _ => rfl
  | case3 s => exact unpack_ne_notANumber fun _ => rfl
  | case4 s m e hm biased hlarge => exact unpack_ne_notANumber fun _ => rfl
  | case5 s m e hm bits biased hsmall hbits =>
    refine unpack_ne_notANumber fun hexponent => ?_
    have hbelow : biased + 1 < 2 ^ 11 := not_le.1 hsmall
    have hvalue := congrArg BitVec.toNat hexponent
    rw [BitVec.toNat_ofNat, Nat.mod_eq_of_lt (Nat.lt_of_succ_lt hbelow)] at hvalue
    exact absurd hvalue (Nat.ne_of_lt (Nat.lt_of_succ_lt_succ hbelow))
  | case6 s m e hm bits biased hsmall hbits =>
    exact unpack_ne_notANumber fun hexponent => absurd hexponent (by decide)

theorem roundWithAccuracy_ne_notANumber (sign : Sign) (m : Nat) (e : Int) (accuracy : Accuracy) :
    roundWithAccuracy Format.binary64 sign m e accuracy ≠ .notANumber := by
  simp only [roundWithAccuracy]
  split <;> rintro ⟨⟩

/-- The numbers that are as large as a channel of a color are finite, and above zero but for the first. -/
theorem unpack_ofNat {n : Nat} (hn : n ≤ 255) :
    Scalar.isFinite (Scalar.ofNat n : Float) = true ∧
      (0 < n → ∀ sign, (Scalar.ofNat n : Float).toModel.unpack ≠ .zero sign) := by
  have hchannels : ∀ n ≤ 255, (Scalar.isFinite (Scalar.ofNat n : Float) &&
      (n == 0 || (Scalar.ofNat n : Float).toModel.unpack.compare (.zero .positive) == some .gt)) = true := by
    decide +kernel
  have h := hchannels n hn
  rw [Bool.and_eq_true] at h
  refine ⟨h.1, fun hpos sign hzero => ?_⟩
  rw [hzero, Bool.or_eq_true] at h
  cases h.2 with
  | inl hnone => exact absurd (beq_iff_eq.1 hnone) hpos.ne'
  | inr hgreater => cases hgreater

theorem beq_self {x : Float} (h : Scalar.isFinite x = true) : (x == x) = true := by
  rw [beq_self_iff]
  obtain ⟨sign, hx⟩ | ⟨sign, m, e, hm, hx⟩ := unpack_of_isFinite h
  all_goals
    rw [hx]
    rintro ⟨⟩

theorem beq_self_div {x : Float} {n : Nat} (hx : Scalar.isFinite x = true) (hpos : 0 < n) (hn : n ≤ 255) :
    (x / Scalar.ofNat n == x / Scalar.ofNat n) = true := by
  obtain ⟨hfinite, hnonzero⟩ := unpack_ofNat hn
  have hdiv : (x / Scalar.ofNat n).toModel = Float.Model.pack (UnpackedFloat.div Format.binary64
      x.toModel.unpack (Scalar.ofNat n : Float).toModel.unpack) := rfl
  rw [beq_self_iff, hdiv]
  refine pack_ne_notANumber ?_
  obtain ⟨sign, hdivisor⟩ | ⟨sign, m, e, hm, hdivisor⟩ := unpack_of_isFinite hfinite
  · exact absurd hdivisor (hnonzero hpos sign)
  · rw [hdivisor]
    obtain ⟨sign', hdividend⟩ | ⟨sign', m', e', hm', hdividend⟩ := unpack_of_isFinite hx
    all_goals rw [hdividend]
    · rintro ⟨⟩
    · exact roundWithAccuracy_ne_notANumber _ _ _ _

end Finite

instance : Scalar.Bounded Float where
  isAlpha_one := ⟨by decide +kernel, by decide +kernel⟩
  isAlpha_mul hx hy :=
    (isAlpha_iff _).2 (pack_atMostOne (mul_atMostOne ((isAlpha_iff _).1 hx) ((isAlpha_iff _).1 hy)))
  isAlpha_clamp := isAlpha_clamp
  isFinite_ofNat hn := (unpack_ofNat hn).1
  beq_self := beq_self
  beq_self_div := beq_self_div

end Double

section Rational

theorem isAlpha_rat (x : Rat) : Scalar.IsAlpha x ↔ (0 : Rat) ≤ x ∧ x ≤ 1 := by
  change Scalar.ofDecimal 0 0 ≤ x ∧ x ≤ Scalar.ofDecimal 1 0 ↔ _
  rw [ofNat_rat, ofNat_rat]
  rfl

instance : Scalar.Bounded Rat where
  isAlpha_one := (isAlpha_rat _).2 (by decide +kernel)
  isAlpha_mul hx hy := by
    rw [isAlpha_rat] at hx hy ⊢
    exact ⟨mul_nonneg hx.1 hy.1, mul_le_one₀ hx.2 hy.1 hy.2⟩
  isAlpha_clamp {x} _ := by
    have hraise : Scalar.ofDecimal 0 0 ≤ (if x ≤ Scalar.ofDecimal 0 0 then Scalar.ofDecimal 0 0 else x) := by
      split
      next => exact le_refl _
      next habove => exact (not_le.1 habove).le
    change Scalar.IsAlpha (
      let raised : Rat := if x ≤ Scalar.ofDecimal 0 0 then Scalar.ofDecimal 0 0 else x
      if raised ≤ Scalar.ofDecimal 1 0 then raised else Scalar.ofDecimal 1 0)
    generalize (if x ≤ Scalar.ofDecimal 0 0 then Scalar.ofDecimal 0 0 else x) = raised at hraise
    simp only
    split
    next hbelow => exact ⟨hraise, hbelow⟩
    next => exact (isAlpha_rat _).2 (by decide +kernel)
  isFinite_ofNat _ := rfl
  beq_self _ := (Scalar.Exact.beq_iff_eq _ _).2 rfl
  beq_self_div _ _ _ := (Scalar.Exact.beq_iff_eq _ _).2 rfl

end Rational

end SvgPage
