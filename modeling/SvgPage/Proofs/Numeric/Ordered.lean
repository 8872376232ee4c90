import Mathlib
import SvgPage.Proofs.Numeric.Bounded

namespace SvgPage

/-- Numbers with an order that only values that are no numbers are left out of. -/
class Scalar.Ordered (α : Type) [Scalar α] : Prop where
  beq_iff : ∀ x y : α, (x == y) = true ↔ x ≤ y ∧ y ≤ x
  lt_iff : ∀ x y : α, x < y ↔ x ≤ y ∧ ¬y ≤ x
  beq_self_of_le : ∀ x y : α, x ≤ y → (x == x) = true ∧ (y == y) = true
  le_trans : ∀ x y z : α, x ≤ y → y ≤ z → x ≤ z
  le_total : ∀ x y : α, (x == x) = true → (y == y) = true → x ≤ y ∨ y ≤ x

namespace Double

open Float.Model UnpackedFloat

/-- Where a number stands in the order of doubles: by its sign, then by its exponent, then by its mantissa. Infinite
    numbers have signs of their own, beyond those of all others. -/
def rank : UnpackedFloat → Option (Int ×ₗ Int ×ₗ Int)
  | .notANumber => none
  | .infinity .positive => some (toLex (2, toLex (0, 0)))
  | .infinity .negative => some (toLex (-2, toLex (0, 0)))
  | .zero _ => some (toLex (0, toLex (0, 0)))
  | .finite .positive mantissa exponent _ => some (toLex (1, toLex (exponent, mantissa)))
  | .finite .negative mantissa exponent _ => some (toLex (-1, toLex (-exponent, -mantissa)))

theorem isLE_then_compare (e e' : Int) (m m' : Nat) :
    ((compare e e').then (compare m m')).isLE = true ↔
      (toLex (e, (m : Int)) : Int ×ₗ Int) ≤ toLex (e', (m' : Int)) := by
  rw [Prod.Lex.toLex_le_toLex, Int.ofNat_le]
  obtain hbelow | rfl | habove := Int.lt_trichotomy e e'
  · simp [Int.compare_eq_lt.2 hbelow, hbelow]
  · simp [Nat.isLE_compare]
  · rw [Int.compare_eq_gt.2 habove]
    simp
    omega

theorem isLE_swap_then_compare (e e' : Int) (m m' : Nat) :
    ((compare e e').then (compare m m')).swap.isLE = true ↔
      (toLex (-e, -(m : Int)) : Int ×ₗ Int) ≤ toLex (-e', -(m' : Int)) := by
  rw [Ordering.swap_then, Int.compare_swap, Nat.compare_swap, isLE_then_compare, Prod.Lex.toLex_le_toLex,
    Prod.Lex.toLex_le_toLex]
  simp only [neg_lt_neg_iff, neg_inj, neg_le_neg_iff, eq_comm]

theorem le_iff_rank_of_finite (s t : Sign) {m m' : Nat} (e e' : Int) (hm : 0 < m) (hm' : 0 < m') :
    (UnpackedFloat.finite s m e hm).le (.finite t m' e' hm') = true ↔
      ∃ a ∈ rank (.finite s m e hm), ∃ b ∈ rank (.finite t m' e' hm'), a ≤ b := by
  have hpositive := isLE_then_compare e e' m m'
  have hnegative := isLE_swap_then_compare e e' m m'
  cases s <;> cases t
  case positive.positive =>
    simpa [rank, UnpackedFloat.le, UnpackedFloat.compare, Prod.Lex.toLex_le_toLex] using hpositive
  case negative.negative =>
    simpa [rank, UnpackedFloat.le, UnpackedFloat.compare, Prod.Lex.toLex_le_toLex] using hnegative
  all_goals simp [rank, UnpackedFloat.le, UnpackedFloat.compare, Prod.Lex.toLex_le_toLex]

/-- Doubles are compared by where they stand. -/
theorem le_iff_rank (x y : UnpackedFloat) : x.le y = true ↔ ∃ a ∈ rank x, ∃ b ∈ rank y, a ≤ b := by
  cases x with
  | notANumber => simp [rank, UnpackedFloat.le, UnpackedFloat.compare]
  | finite s m e hm =>
    cases y with
    | notANumber => cases s <;> simp [rank, UnpackedFloat.le, UnpackedFloat.compare]
    | finite t m' e' hm' => exact le_iff_rank_of_finite s t e e' hm hm'
    | infinity t | zero t =>
      cases s <;> cases t
      all_goals simp [rank, UnpackedFloat.le, UnpackedFloat.compare, Prod.Lex.toLex_le_toLex]
  | infinity s | zero s =>
    cases y with
    | notANumber => cases s <;> simp [rank, UnpackedFloat.le, UnpackedFloat.compare]
    | finite t | infinity t | zero t =>
      cases s <;> cases t
      all_goals
        simp [rank, UnpackedFloat.le, UnpackedFloat.compare, Prod.Lex.toLex_le_toLex]
        try decide

theorem rank_isSome {x : Float} (h : (x == x) = true) : ∃ a, rank x.toModel.unpack = some a := by
  have hnumber := beq_self_iff.1 h
  cases hx : x.toModel.unpack with
  | notANumber => exact absurd hx hnumber
  | zero s => exact ⟨_, rfl⟩
  | infinity s => cases s <;> exact ⟨_, rfl⟩
  | finite s m e hm => cases s <;> exact ⟨_, rfl⟩

/-- One comparison tells everything about two numbers. -/
theorem compare_eq_some_iff (x y : UnpackedFloat) :
    (x.compare y = some .eq ↔ x.le y = true ∧ y.le x = true) ∧
      (x.compare y = some .lt ↔ x.le y = true ∧ ¬y.le x = true) := by
  rw [UnpackedFloat.le, UnpackedFloat.le, compare_swap x y]
  cases x.compare y with
  | none => simp
  | some order => cases order <;> simp

end Double

instance : Scalar.Ordered Float where
  beq_iff x y := by
    have hbeq : (x == y) = true ↔ (x.toModel.unpack.compare y.toModel.unpack == some .eq) = true := .rfl
    rw [hbeq, beq_iff_eq, (Double.compare_eq_some_iff _ _).1, Double.le_iff, Double.le_iff]
  lt_iff x y := by
    rw [Double.lt_iff, (Double.compare_eq_some_iff _ _).2, Double.le_iff, Double.le_iff]
  beq_self_of_le x y h := by
    rw [Double.le_iff, Double.le_iff_rank] at h
    obtain ⟨a, ha, b, hb, -⟩ := h
    rw [Double.beq_self_iff, Double.beq_self_iff]
    constructor
    · rintro hnone
      rw [hnone] at ha
      cases ha
    · rintro hnone
      rw [hnone] at hb
      cases hb
  le_trans x y z hxy hyz := by
    rw [Double.le_iff, Double.le_iff_rank] at *
    obtain ⟨a, ha, b, hb, hab⟩ := hxy
    obtain ⟨b', hb', c, hc, hbc⟩ := hyz
    obtain rfl : b = b' := Option.mem_unique hb hb'
    exact ⟨a, ha, c, hc, hab.trans hbc⟩
  le_total x y hx hy := by
    obtain ⟨a, ha⟩ := Double.rank_isSome hx
    obtain ⟨b, hb⟩ := Double.rank_isSome hy
    rw [Double.le_iff, Double.le_iff, Double.le_iff_rank, Double.le_iff_rank]
    obtain hab | hba := le_total a b
    · exact .inl ⟨a, ha, b, hb, hab⟩
    · exact .inr ⟨b, hb, a, ha, hba⟩

instance : Scalar.Ordered Rat where
  beq_iff x y := by
    rw [Scalar.Exact.beq_iff_eq]
    exact le_antisymm_iff
  lt_iff x y := lt_iff_le_not_ge
  beq_self_of_le x y _ := ⟨(Scalar.Exact.beq_iff_eq x x).2 rfl, (Scalar.Exact.beq_iff_eq y y).2 rfl⟩
  le_trans x y z := Rat.le_trans
  le_total x y _ _ := Rat.le_total

end SvgPage
