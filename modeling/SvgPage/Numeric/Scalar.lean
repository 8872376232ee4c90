namespace SvgPage

/-- The numbers a drawing is computed with. Geometry, styles and gradients are written once over any
    such type: doubles give the numbers that reach a page, exact fields give the ideal drawing.
    `min` and `max` are the type's own, so that a type with values that are not numbers decides for
    itself how they spread. -/
class Scalar (α : Type) extends Add α, Sub α, Mul α, Div α, Neg α, LT α, LE α, BEq α, Min α, Max α where
  decideLT : ∀ x y : α, Decidable (x < y)
  decideLE : ∀ x y : α, Decidable (x ≤ y)
  /-- The number nearest to `digits · 10 ^ exponent`. -/
  ofDecimal : (digits : Nat) → (exponent : Int) → α
  isFinite : α → Bool
  sqrt : α → α
  abs : α → α
  sin : α → α
  cos : α → α
  tan : α → α
  /-- The angle of the direction with ordinate `y` and abscissa `x`, given in that order. -/
  atan2 : α → α → α
  pi : α
  /-- The least natural number that is not below the argument. -/
  ceilNat : α → Nat
  /-- The shortest text that denotes the number. -/
  toText : α → String

namespace Scalar

variable {α : Type} [Scalar α]

instance (x y : α) : Decidable (x < y) := decideLT x y

instance (x y : α) : Decidable (x ≤ y) := decideLE x y

instance (priority := low) (n : Nat) : OfNat α n := ⟨ofDecimal n 0⟩

instance (priority := low) : OfScientific α :=
  ⟨fun digits negative exponent => ofDecimal digits (if negative then -exponent else exponent)⟩

/-- The number that a natural number denotes. -/
def ofNat (n : Nat) : α := ofDecimal n 0

/-- The value moved into the interval from `low` to `high`. -/
def clamp (value low high : α) : α := min (max value low) high

end Scalar

end SvgPage
