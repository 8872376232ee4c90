import Mathlib
import SvgPage.Proofs.Numeric.Bounded
import SvgPage.Proofs.Numeric.FixedPoint

namespace SvgPage

/-- Numbers with zero, of which those between zero and one stay there when they are taken from one. -/
class Scalar.Complemented (α : Type) [Scalar α] : Prop where
  isAlpha_zero : Scalar.IsAlpha (0 : α)
  isAlpha_one_sub : ∀ {x : α}, Scalar.IsAlpha x → Scalar.IsAlpha (1 - x)

namespace Double

open Float.Model UnpackedFloat

section Complement

/-- What a number is written with in more places is still at most one. -/
theorem decreaseExponent_le {m : Nat} {e : Int} (he : e ≤ 0) (hvalue : m ≤ 2 ^ (-e).toNat) (target : Int) :
    (decreaseExponent m e target).2 ≤ 0 ∧
      (decreaseExponent m e target).1 ≤ 2 ^ (-(decreaseExponent m e target).2).toNat := by
  have hdecreased : decreaseExponent m e target = (m <<< (e - target).toNat, e - (e - target).toNat) := rfl
  rw [hdecreased]
  refine ⟨by omega, ?_⟩
  have hplaces : (-(e - (e - target).toNat)).toNat = (-e).toNat + (e - target).toNat := by omega
  rw [Nat.shiftLeft_eq, hplaces, Nat.pow_add]
  exact Nat.mul_le_mul_right _ hvalue

theorem round_atMostOne {m : Nat} {e : Int} (he : e ≤ 0) (hvalue : m ≤ 2 ^ (-e).toNat) :
    AtMostOne (UnpackedFloat.round Format.binary64 .positive m e) := by
  obtain ⟨hexponent, hbound⟩ := decreaseExponent_le he hvalue (Format.binary64.targetExponent (totalExponent m e))
  exact roundWithAccuracy_atMostOne hexponent hbound

theorem normalize_atMostOne {m : Nat} {e : Int} (he : e ≤ 0) (hvalue : m ≤ 2 ^ (-e).toNat) :
    AtMostOne (UnpackedFloat.normalize Format.binary64 m e .positive) := by
  rw [UnpackedFloat.normalize]
  split
  next h => exact absurd (Int.compare_eq_lt.1 h) (by omega)
  · exact .zero _
  · exact round_atMostOne he hvalue

/-- In the places of the smaller of two numbers, a number that is at most one can be taken from one. -/
theorem one_sub_atMostOne {x : UnpackedFloat} (h : AtMostOne x) :
    AtMostOne (UnpackedFloat.sub Format.binary64 (.finite .positive (2 ^ 52) (-52) (by decide)) x) := by
  cases h with
  | zero s => exact .finite _ (by decide) (by decide)
  | @finite m e hm he hvalue =>
    let smaller : Int := Min.min (-52) e
    have hone : (decreaseExponent (2 ^ 52) (-52) smaller).1 = 2 ^ (-smaller).toNat := by
      change 2 ^ 52 <<< (-52 - smaller).toNat = _
      rw [Nat.shiftLeft_eq, ← Nat.pow_add]
      congr 1
      omega
    have hpart : (decreaseExponent m e smaller).1 ≤ 2 ^ (-smaller).toNat := by
      have hexponent : (decreaseExponent m e smaller).2 = smaller := by
        change e - (e - smaller).toNat = smaller
        omega
      have hbound := (decreaseExponent_le he hvalue smaller).2
      rwa [hexponent] at hbound
    have hrest : ((decreaseExponent (2 ^ 52) (-52) smaller).1 : Int) - (decreaseExponent m e smaller).1 =
        (2 ^ (-smaller).toNat - (decreaseExponent m e smaller).1 : Nat) := by
      rw [hone, Nat.cast_sub hpart]
    have hsub : UnpackedFloat.sub Format.binary64 (.finite .positive (2 ^ 52) (-52) (by decide))
        (.finite .positive m e hm) = UnpackedFloat.normalize Format.binary64
          ((decreaseExponent (2 ^ 52) (-52) smaller).1 - (decreaseExponent m e smaller).1 : Int) smaller .positive :=
      rfl
    rw [hsub, hrest]
    exact normalize_atMostOne (by omega) (Nat.sub_le _ _)

end Complement

instance : Scalar.Complemented Float where
  isAlpha_zero := ⟨by decide +kernel, by decide +kernel⟩
  isAlpha_one_sub {x} hx := by
    have hsub : (Scalar.ofDecimal 1 0 - x).toModel = .pack (UnpackedFloat.sub Format.binary64
        (Scalar.ofDecimal 1 0 : Float).toModel.unpack x.toModel.unpack) := rfl
    rw [isAlpha_iff] at hx ⊢
    change AtMostOne (Scalar.ofDecimal 1 0 - x).toModel.unpack
    rw [hsub, unpack_one]
    exact pack_atMostOne (one_sub_atMostOne hx)

section Fields

def isNegativeSign : Sign → Bool
  | .positive => false
  | .negative => true

/-- What is unpacked, in the form in which numbers are taken apart to be written. -/
def binary : UnpackedFloat → Binary
  | .notANumber => .notANumber
  | .infinity sign => .infinite (isNegativeSign sign)
  | .zero sign => .finite (isNegativeSign sign) 0 (-1074)
  | .finite sign mantissa exponent _ => .finite (isNegativeSign sign) mantissa exponent

theorem toNat_unpackMantissa (bits : BitVec 64) :
    (@unpackMantissa Format.binary64 bits).toNat = bits.toNat % Nat.pow 2 52 := by
  rw [unpackMantissa, BitVec.toNat_cast, BitVec.extractLsb_toNat]
  rfl

theorem toNat_unpackExponent (bits : BitVec 64) :
    (@unpackExponent Format.binary64 bits).toNat = bits.toNat / Nat.pow 2 52 % Nat.pow 2 11 := by
  rw [unpackExponent, BitVec.toNat_cast, BitVec.extractLsb_toNat, Nat.shiftRight_eq_div_pow]
  rfl

theorem isNegativeSign_unpackSign (bits : BitVec 64) :
    isNegativeSign (.ofBitVec (@unpackSign Format.binary64 bits)) = (bits.toNat / Nat.pow 2 63 == 1) := by
  have hbit : (@unpackSign Format.binary64 bits).toNat = bits.toNat / Nat.pow 2 63 % Nat.pow 2 1 := by
    rw [unpackSign, BitVec.toNat_cast, BitVec.extractLsb_toNat, Nat.shiftRight_eq_div_pow]
    rfl
  have hplace : bits.toNat / Nat.pow 2 63 < 2 := Nat.div_lt_of_lt_mul bits.isLt
  rw [Nat.mod_eq_of_lt hplace] at hbit
  rw [← hbit, Sign.ofBitVec]
  split
  next hzero =>
    rw [hzero]
    rfl
  next hone =>
    have hbelow := (@unpackSign Format.binary64 bits).isLt
    have hnonzero : (@unpackSign Format.binary64 bits).toNat ≠ 0 := fun h => hone (BitVec.eq_of_toNat_eq h)
    have hset : (@unpackSign Format.binary64 bits).toNat = 1 := by omega
    rw [hset]
    rfl

/-- Taking a double apart and unpacking it come to the same. -/
theorem ofFloat_eq (x : Float) : Binary.ofFloat x = binary x.toModel.unpack := by
  have hunpack : x.toModel.unpack = UnpackedFloat.unpack Format.binary64 x.toBits.toBitVec := rfl
  rw [Binary.ofFloat, hunpack]
  generalize x.toBits = bits
  have hmantissa : _ = bits.toNat % Nat.pow 2 52 := toNat_unpackMantissa bits.toBitVec
  have hexponent : _ = bits.toNat / Nat.pow 2 52 % Nat.pow 2 11 := toNat_unpackExponent bits.toBitVec
  have hsign : _ = (bits.toNat / Nat.pow 2 63 == 1) := isNegativeSign_unpackSign bits.toBitVec
  have hfield {width : Nat} (field value : BitVec width) : (field.toNat == value.toNat) = true ↔ field = value :=
    beq_iff_eq.trans BitVec.toNat_inj
  have hlast (field : BitVec 11) : (field.toNat == Nat.pow 2 11 - 1) = true ↔ field = -1#11 := hfield field (-1#11)
  have hnone (field : BitVec 11) : (field.toNat == 0) = true ↔ field = 0#11 := hfield field 0#11
  have hempty (field : BitVec 52) : (field.toNat == 0) = true ↔ field = 0#52 := hfield field 0#52
  simp only [Binary.ofBits, UnpackedFloat.unpack, ← hmantissa, ← hexponent, ← hsign, hlast, hnone, hempty]
  split
  · split <;> rfl
  · split
    next hexponent =>
      split
      next hzero => rw [hzero]; rfl
      next => rw [hexponent]; rfl
    next =>
      rw [binary, toNat_one_append]
      rfl

end Fields

end Double

namespace Fixed

/-- Whether a text is a number from zero to one in fixed point. -/
def IsProportion (text : String) : Prop := ∃ n ≤ 1000000, text = layout n

theorem millionths_le {mantissa : Nat} {exponent : Int} (hexponent : exponent ≤ 0)
    (hvalue : mantissa ≤ 2 ^ (-exponent).toNat) : millionths mantissa exponent ≤ 1000000 := by
  have hscaled : Binary.scaled mantissa exponent 6 = (mantissa * 1000000, 2 ^ (-exponent).toNat) := by
    simp only [Binary.scaled]
    rw [Int.toNat_of_nonpos hexponent]
    change (mantissa * 1 * 1000000, 2 ^ (-exponent).toNat * 1) = _
    rw [Nat.mul_one, Nat.mul_one]
  have hpositive : 0 < 2 ^ (-exponent).toNat := Nat.two_pow_pos _
  simp only [millionths, hscaled, roundHalfUp]
  rw [← Nat.lt_succ_iff, Nat.div_lt_iff_lt_mul (Nat.mul_pos Nat.two_pos hpositive)]
  omega

/-- A number between zero and one is written as one. -/
theorem isProportion_text {x : Float} (h : Scalar.IsAlpha x) : IsProportion (text x) := by
  have hplaces (mantissa : Nat) {exponent : Int} (hexponent : exponent ≤ 0)
      (hvalue : mantissa ≤ 2 ^ (-exponent).toNat) :
      ¬10 ^ 21 * 2 ^ (-exponent).toNat ≤ mantissa * 2 ^ exponent.toNat := by
    have hpositive : 0 < 2 ^ (-exponent).toNat := Nat.two_pow_pos _
    rw [Int.toNat_of_nonpos hexponent, Nat.pow_zero]
    omega
  have hbits := Double.ofFloat_eq x
  have hx := (Double.isAlpha_iff x).1 h
  generalize x.toModel.unpack = unpacked at hbits hx
  cases hx with
  | zero sign =>
    have hnone : millionths 0 (-1074) = 0 := by
      decide +kernel
    refine ⟨0, Nat.zero_le _, ?_⟩
    rw [text_eq hbits, if_neg (hplaces 0 (by decide) (Nat.zero_le _)), hnone]
    simp
  | finite hmantissa hexponent hvalue =>
    refine ⟨_, millionths_le hexponent hvalue, ?_⟩
    rw [text_eq hbits, if_neg (hplaces _ hexponent hvalue)]
    simp [Double.isNegativeSign]

end Fixed

instance : Scalar.Complemented Rat where
  isAlpha_zero := (isAlpha_rat _).2 (by decide +kernel)
  isAlpha_one_sub {x} hx := by
    have hone : (Scalar.ofDecimal 1 0 : Rat) = 1 := ofNat_rat 1
    rw [isAlpha_rat] at hx ⊢
    change 0 ≤ Scalar.ofDecimal 1 0 - x ∧ Scalar.ofDecimal 1 0 - x ≤ 1
    rw [hone]
    exact ⟨sub_nonneg.2 hx.2, sub_le_self 1 hx.1⟩

end SvgPage
