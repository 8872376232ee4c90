import Mathlib.Algebra.Ring.Rat
import SvgPage.Numeric.Double
import SvgPage.Proofs.Exact

namespace SvgPage

/-- Numbers whose comparison can be relied on. Doubles are such numbers, with one value that equals nothing
    and two zeros that equal each other. -/
class Scalar.Comparable (α : Type) [Scalar α] : Prop where
  zero_beq_zero : ((0 : α) == 0) = true
  beq_trans : ∀ {x y z : α}, (x == y) = true → (y == z) = true → (x == z) = true

/-- Numbers with exact ring operations. Nothing is asked of the other functions. -/
class Scalar.Exact (α : Type) [Scalar α] : Prop where
  beq_iff_eq : ∀ x y : α, (x == y) = true ↔ x = y
  add_assoc : ∀ x y z : α, x + y + z = x + (y + z)
  add_comm : ∀ x y : α, x + y = y + x
  add_zero : ∀ x : α, x + 0 = x
  add_neg : ∀ x : α, x + -x = 0
  sub_eq : ∀ x y : α, x - y = x + -y
  mul_assoc : ∀ x y z : α, x * y * z = x * (y * z)
  mul_comm : ∀ x y : α, x * y = y * x
  mul_one : ∀ x : α, x * 1 = x
  mul_add : ∀ x y z : α, x * (y + z) = x * y + x * z

instance {α : Type} [Scalar α] [Scalar.Exact α] : Scalar.Comparable α where
  zero_beq_zero := (Scalar.Exact.beq_iff_eq _ _).2 rfl
  beq_trans hxy hyz := by
    rw [Scalar.Exact.beq_iff_eq] at hxy hyz ⊢
    exact hxy.trans hyz

/-- Whether a number stands for another one: it is the same, or compares as equal. -/
def Scalar.Agrees {α : Type} [Scalar α] (x y : α) : Prop := x = y ∨ (x == y) = true

namespace Scalar.Agrees

variable {α : Type} [Scalar α] {x y z : α}

theorem refl (x : α) : Agrees x x := .inl rfl

theorem trans_beq [Scalar.Comparable α] (hxy : (x == y) = true) (hyz : Agrees y z) : Agrees x z := by
  obtain rfl | hyz := hyz
  · exact .inr hxy
  · exact .inr (Scalar.Comparable.beq_trans hxy hyz)

end Scalar.Agrees

section Rational

theorem ofNat_rat (n : Nat) : (Scalar.ofDecimal n 0 : Rat) = n := by
  change (n : Rat) * (10 : Rat) ^ (0 : Int) = n
  rw [zpow_zero, Rat.mul_one]

instance : Scalar.Exact Rat where
  beq_iff_eq x y := by
    change decide (x = y) = true ↔ _
    exact decide_eq_true_iff
  add_assoc := Rat.add_assoc
  add_comm := Rat.add_comm
  add_zero x := by
    change x + Scalar.ofDecimal 0 0 = x
    rw [ofNat_rat]
    exact Rat.add_zero x
  add_neg x := by
    change x + -x = Scalar.ofDecimal 0 0
    rw [ofNat_rat]
    exact add_neg_cancel x
  sub_eq := Rat.sub_eq_add_neg
  mul_assoc := Rat.mul_assoc
  mul_comm := Rat.mul_comm
  mul_one x := by
    change x * Scalar.ofDecimal 1 0 = x
    rw [ofNat_rat]
    exact Rat.mul_one x
  mul_add := Rat.mul_add

end Rational

section Double

open Float.Model UnpackedFloat

/-- Numbers that compare as equal are the same, apart from the signs of zeros. -/
theorem eq_or_zero_of_compare {x y : UnpackedFloat} (h : x.compare y = some .eq) :
    x = y ∨ ∃ s t, x = .zero s ∧ y = .zero t := by
  cases x with
  | notANumber => cases h
  | zero s =>
    cases y with
    | zero t => exact .inr ⟨s, t, rfl, rfl⟩
    | notANumber => cases h
    | infinity t => cases t <;> cases h
    | finite t => cases t <;> cases h
  | infinity s =>
    cases y with
    | infinity t =>
      cases s <;> cases t
      all_goals first
        | exact .inl rfl
        | exact absurd h (by decide)
    | _ => cases s <;> cases h
  | finite s mantissa exponent hmantissa =>
    cases y with
    | notANumber => cases s <;> cases h
    | zero t => cases s <;> cases h
    | infinity t => cases s <;> cases t <;> cases h
    | finite t mantissa' exponent' hmantissa' =>
      left
      have hsame (horder : (compare exponent exponent').then (compare mantissa mantissa') = .eq) (s : Sign) :
          UnpackedFloat.finite s mantissa exponent hmantissa = .finite s mantissa' exponent' hmantissa' := by
        obtain ⟨hexponent, hvalue⟩ := Ordering.then_eq_eq.1 horder
        obtain rfl := Int.compare_eq_eq.1 hexponent
        obtain rfl := Nat.compare_eq_eq.1 hvalue
        rfl
      cases s with
      | positive =>
        cases t with
        | positive => exact hsame (Option.some.inj h) _
        | negative => cases h
      | negative =>
        cases t with
        | positive => cases h
        | negative => exact hsame (Ordering.swap_eq_eq.1 (Option.some.inj h)) _

instance : Scalar.Comparable Float where
  zero_beq_zero := by decide +kernel
  beq_trans {x y z} hxy hyz := by
    have hcompare (x y : Float) :
        (x == y) = (x.toModel.unpack.compare y.toModel.unpack == some .eq) := rfl
    rw [hcompare, beq_iff_eq] at hxy hyz ⊢
    obtain hxy' | ⟨s, t, hx, hy⟩ := eq_or_zero_of_compare hxy
    · rwa [hxy']
    · obtain hyz' | ⟨_, u, -, hz⟩ := eq_or_zero_of_compare hyz
      · rwa [← hyz']
      · rw [hx, hz]
        rfl

end Double

end SvgPage
