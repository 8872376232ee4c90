import Mathlib
import SvgPage.Proofs.Numeric.Laws
import SvgPage.Proofs.Numeric.SignedZero

namespace SvgPage

/-- Numbers that are points of the real line, with exact arithmetic. Roots and the functions of angles are left out. -/
class Scalar.Measured (α : Type) [Scalar α] where
  toReal : α → ℝ
  toReal_injective : Function.Injective toReal
  toReal_ofNat : ∀ n : Nat, toReal (Scalar.ofDecimal n 0) = n
  toReal_add : ∀ x y : α, toReal (x + y) = toReal x + toReal y
  toReal_sub : ∀ x y : α, toReal (x - y) = toReal x - toReal y
  toReal_mul : ∀ x y : α, toReal (x * y) = toReal x * toReal y
  toReal_div : ∀ x y : α, toReal y ≠ 0 → toReal (x / y) = toReal x / toReal y
  toReal_min : ∀ x y : α, toReal (min x y) = min (toReal x) (toReal y)
  toReal_max : ∀ x y : α, toReal (max x y) = max (toReal x) (toReal y)
  toReal_abs : ∀ x : α, toReal (Scalar.abs x) = |toReal x|
  lt_iff : ∀ x y : α, x < y ↔ toReal x < toReal y

namespace Scalar.Measured

attribute [simp] toReal_ofNat toReal_add toReal_sub toReal_mul toReal_min toReal_max toReal_abs

variable {α : Type} [Scalar α] [Scalar.Measured α]

theorem toReal_zero : toReal (0 : α) = 0 := (toReal_ofNat 0).trans Nat.cast_zero

theorem toReal_one : toReal (1 : α) = 1 := (toReal_ofNat 1).trans Nat.cast_one

theorem toReal_clamp (x : α) : toReal (Scalar.clamp x 0 1) = min (max (toReal x) 0) 1 := by
  rw [Scalar.clamp, toReal_min, toReal_max, toReal_zero, toReal_one]

theorem toReal_percent (x : α) : toReal (x / 100) = toReal x / 100 := by
  have hhundred : toReal (100 : α) = 100 := toReal_ofNat 100
  rw [toReal_div x 100 (by rw [hhundred]; norm_num), hhundred]

theorem ne_zero_iff {x : α} : x ≠ 0 ↔ toReal x ≠ 0 := by
  rw [← (toReal_zero : toReal (0 : α) = 0), toReal_injective.ne_iff]

theorem ofNat_ne_zero {n : Nat} (h : n ≠ 0) : (Scalar.ofDecimal n 0 : α) ≠ 0 := by
  rw [ne_zero_iff, toReal_ofNat]
  exact Nat.cast_ne_zero.2 h

theorem fromZero_eq (x : α) : 0 + x = x := by
  apply toReal_injective
  rw [toReal_add, toReal_zero, zero_add]

/-- Exact numbers have one zero. -/
instance : Scalar.Rebasing α where
  zero_add_zero := fromZero_eq 0
  zero_add_assoc x y := by rw [fromZero_eq, fromZero_eq]
  zero_add_reflect x c := by rw [fromZero_eq, fromZero_eq, fromZero_eq]
  not_abs_lt_zero x := by
    rw [lt_iff, toReal_abs, toReal_zero]
    exact not_lt.2 (abs_nonneg _)

end Scalar.Measured

noncomputable instance : Scalar.Measured Rat where
  toReal x := x
  toReal_injective := Rat.cast_injective
  toReal_ofNat n := by rw [ofNat_rat, Rat.cast_natCast]
  toReal_add := Rat.cast_add
  toReal_sub := Rat.cast_sub
  toReal_mul := Rat.cast_mul
  toReal_div x y _ := Rat.cast_div x y
  toReal_min := Rat.cast_min
  toReal_max := Rat.cast_max
  toReal_abs x := by
    change (((if 0 ≤ x then x else -x : Rat)) : ℝ) = _
    rw [← Rat.cast_abs]
    split
    next h => rw [abs_of_nonneg h]
    next h => rw [abs_of_neg (not_le.1 h)]
  lt_iff _ _ := Rat.cast_lt.symm

theorem Scalar.Measured.toReal_rat (x : Rat) : toReal x = (x : ℝ) := rfl

/-- Numbers with exact square roots. -/
class Scalar.Rooted (α : Type) [Scalar α] [Scalar.Measured α] : Prop where
  toReal_sqrt : ∀ x : α, Scalar.Measured.toReal (Scalar.sqrt x) = √(Scalar.Measured.toReal x)

/-- The real numbers as numbers of a drawing. They have no texts that could tell all of them apart. -/
structure RealNumber where
  toReal : ℝ

namespace RealNumber

noncomputable instance : Scalar RealNumber where
  add x y := ⟨x.toReal + y.toReal⟩
  sub x y := ⟨x.toReal - y.toReal⟩
  mul x y := ⟨x.toReal * y.toReal⟩
  div x y := ⟨x.toReal / y.toReal⟩
  neg x := ⟨-x.toReal⟩
  lt x y := x.toReal < y.toReal
  le x y := x.toReal ≤ y.toReal
  beq x y := decide (x.toReal = y.toReal)
  min x y := ⟨min x.toReal y.toReal⟩
  max x y := ⟨max x.toReal y.toReal⟩
  decideLT x y := inferInstanceAs (Decidable (x.toReal < y.toReal))
  decideLE x y := inferInstanceAs (Decidable (x.toReal ≤ y.toReal))
  ofDecimal digits exponent := ⟨digits * (10 : ℝ) ^ exponent⟩
  isFinite _ := true
  sqrt x := ⟨√x.toReal⟩
  abs x := ⟨|x.toReal|⟩
  sin x := ⟨Real.sin x.toReal⟩
  cos x := ⟨Real.cos x.toReal⟩
  tan x := ⟨Real.tan x.toReal⟩
  atan2 y x := ⟨Complex.arg ⟨x.toReal, y.toReal⟩⟩
  pi := ⟨Real.pi⟩
  ceilNat x := ⌈x.toReal⌉₊
  toText _ := ""

theorem toReal_injective : Function.Injective toReal := fun ⟨_⟩ ⟨_⟩ h => congrArg mk h

theorem toReal_ofNat (n : Nat) : (Scalar.ofDecimal n 0 : RealNumber).toReal = n := by
  change (n : ℝ) * (10 : ℝ) ^ (0 : ℤ) = n
  rw [zpow_zero, mul_one]

noncomputable instance : Scalar.Measured RealNumber where
  toReal := toReal
  toReal_injective := toReal_injective
  toReal_ofNat := toReal_ofNat
  toReal_add _ _ := rfl
  toReal_sub _ _ := rfl
  toReal_mul _ _ := rfl
  toReal_div _ _ _ := rfl
  toReal_min _ _ := rfl
  toReal_max _ _ := rfl
  toReal_abs _ := rfl
  lt_iff _ _ := Iff.rfl

instance : Scalar.Rooted RealNumber where
  toReal_sqrt _ := rfl

instance : Scalar.Exact RealNumber where
  beq_iff_eq x y := by
    change decide (x.toReal = y.toReal) = true ↔ x = y
    rw [decide_eq_true_iff, toReal_injective.eq_iff]
  add_assoc x y z := toReal_injective (add_assoc x.toReal y.toReal z.toReal)
  add_comm x y := toReal_injective (add_comm x.toReal y.toReal)
  add_zero x := by
    apply toReal_injective
    change x.toReal + (Scalar.ofDecimal 0 0 : RealNumber).toReal = x.toReal
    rw [toReal_ofNat, Nat.cast_zero, add_zero]
  add_neg x := by
    apply toReal_injective
    change x.toReal + -x.toReal = (Scalar.ofDecimal 0 0 : RealNumber).toReal
    rw [toReal_ofNat, Nat.cast_zero, add_neg_cancel]
  sub_eq x y := toReal_injective (sub_eq_add_neg x.toReal y.toReal)
  mul_assoc x y z := toReal_injective (mul_assoc x.toReal y.toReal z.toReal)
  mul_comm x y := toReal_injective (mul_comm x.toReal y.toReal)
  mul_one x := by
    apply toReal_injective
    change x.toReal * (Scalar.ofDecimal 1 0 : RealNumber).toReal = x.toReal
    rw [toReal_ofNat, Nat.cast_one, mul_one]
  mul_add x y z := toReal_injective (mul_add x.toReal y.toReal z.toReal)

end RealNumber

end SvgPage
