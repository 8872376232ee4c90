import SvgPage.Geometry.Arc
import SvgPage.Proofs.Numeric.Laws
import SvgPage.Proofs.Numeric.Measured

namespace SvgPage

variable {α : Type} [Scalar α]

/-- A quotient, unless it has no meaning. -/
def Scalar.divide? (x y : α) : Option α := if y == 0 then none else some (x / y)

namespace EndpointArc

/-- `stretch` with a check of each quotient. -/
def stretch? (x y rx ry : α) : Option α := do
  let along ← Scalar.divide? (x * x) (rx * rx)
  let across ← Scalar.divide? (y * y) (ry * ry)
  return along + across

/-- `centerFactor` with a check of its quotient. -/
def centerFactor? (arc : EndpointArc α) (x y rx ry : α) : Option α := do
  let rx2 := rx * rx
  let ry2 := ry * ry
  let numerator := rx2 * ry2 - rx2 * y * y - ry2 * x * x
  let denominator := rx2 * y * y + ry2 * x * x
  let root ←
    if numerator ≤ 0 || denominator == 0 then some 0
    else (Scalar.divide? numerator denominator).map Scalar.sqrt
  return if arc.large == arc.sweep then -root else root

/-- `toCenter` with a check of each quotient. -/
def toCenter? (arc : EndpointArc α) : Option (CenterArc α) := do
  let rotation ← Scalar.divide? (arc.rotation * Scalar.pi) 180
  let cos := Scalar.cos rotation
  let sin := Scalar.sin rotation
  let halfX ← Scalar.divide? (arc.x1 - arc.x2) 2
  let halfY ← Scalar.divide? (arc.y1 - arc.y2) 2
  let x := cos * halfX + sin * halfY
  let y := -sin * halfX + cos * halfY
  let given ← stretch? x y (Scalar.abs arc.rx) (Scalar.abs arc.ry)
  let grow (radius : α) := if 1 < given then radius * Scalar.sqrt given else radius
  let rx := grow (Scalar.abs arc.rx)
  let ry := grow (Scalar.abs arc.ry)
  let factor ← arc.centerFactor? x y rx ry
  let offsetX ← Scalar.divide? (factor * rx * y) ry
  let offsetY ← Scalar.divide? (-factor * ry * x) rx
  let ux ← Scalar.divide? (x - offsetX) rx
  let uy ← Scalar.divide? (y - offsetY) ry
  let vx ← Scalar.divide? (-x - offsetX) rx
  let vy ← Scalar.divide? (-y - offsetY) ry
  let middleX ← Scalar.divide? (arc.x1 + arc.x2) 2
  let middleY ← Scalar.divide? (arc.y1 + arc.y2) 2
  return {
    cx := cos * offsetX - sin * offsetY + middleX
    cy := sin * offsetX + cos * offsetY + middleY
    rx
    ry
    rotation
    startAngle := vectorAngle 1 0 ux uy
    sweep := directedSweep arc.sweep (vectorAngle ux uy vx vy) }

end EndpointArc

variable [Scalar.Exact α]

theorem Scalar.divide?_zero (x : α) : divide? x 0 = none := if_pos ((Scalar.Exact.beq_iff_eq _ _).2 rfl)

theorem Scalar.divide?_of_ne_zero {y : α} (h : y ≠ 0) (x : α) : divide? x y = some (x / y) :=
  if_neg (mt (Scalar.Exact.beq_iff_eq _ _).1 h)

namespace EndpointArc

variable {arc : EndpointArc α} {x y rx ry : α}

/-- The quotient is formed only where it has a meaning. -/
theorem centerFactor?_eq (arc : EndpointArc α) (x y rx ry : α) :
    arc.centerFactor? x y rx ry = some (arc.centerFactor x y rx ry) := by
  unfold centerFactor? centerFactor
  dsimp only
  split
  · rfl
  next hguard =>
    rw [Bool.or_eq_true, not_or] at hguard
    rw [Scalar.divide?_of_ne_zero (mt (Scalar.Exact.beq_iff_eq _ _).2 hguard.2)]
    rfl

variable [Scalar.Measured α]

open Scalar.Measured

omit [Scalar.Exact α] in
theorem abs_ne_zero_of_ne_zero (h : x ≠ 0) : Scalar.abs x ≠ 0 := by
  rw [ne_zero_iff] at h ⊢
  rwa [toReal_abs, ne_eq, abs_eq_zero]

omit [Scalar.Exact α] in
theorem mul_self_ne_zero_of_ne_zero (h : x ≠ 0) : x * x ≠ 0 := by
  rw [ne_zero_iff] at h ⊢
  rw [toReal_mul]
  exact mul_ne_zero h h

theorem stretch?_eq (hrx : rx ≠ 0) (hry : ry ≠ 0) : stretch? x y rx ry = some (stretch x y rx ry) := by
  unfold stretch?
  rw [Scalar.divide?_of_ne_zero (mul_self_ne_zero_of_ne_zero hrx),
    Scalar.divide?_of_ne_zero (mul_self_ne_zero_of_ne_zero hry)]
  rfl

theorem stretch?_eq_none (h : rx = 0 ∨ ry = 0) : stretch? x y rx ry = none := by
  have hsquare : (0 : α) * 0 = 0 := by
    apply toReal_injective
    rw [toReal_mul, toReal_zero, zero_mul]
  unfold stretch?
  obtain rfl | rfl := h
  · rw [hsquare, Scalar.divide?_zero]
    rfl
  · rw [hsquare, Scalar.divide?_zero]
    cases Scalar.divide? (x * x) (rx * rx) <;> rfl

omit [Scalar.Exact α] in
/-- A radius that is not zero does not become zero when it grows. -/
theorem grown_ne_zero [Scalar.Rooted α] (hx : x ≠ 0) (given : α) :
    (if 1 < given then x * Scalar.sqrt given else x) ≠ 0 := by
  split
  next hgrows =>
    rw [ne_zero_iff] at hx ⊢
    rw [lt_iff, toReal_one] at hgrows
    rw [toReal_mul, Scalar.Rooted.toReal_sqrt]
    exact mul_ne_zero hx (Real.sqrt_ne_zero'.2 (zero_lt_one.trans hgrows))
  · exact hx

/-- All quotients have a meaning if no radius is zero, and none of the radii is when it has grown. -/
theorem toCenter?_eq [Scalar.Rooted α] (hrx : arc.rx ≠ 0) (hry : arc.ry ≠ 0) :
    arc.toCenter? = some arc.toCenter ∧ arc.toCenter.rx ≠ 0 ∧ arc.toCenter.ry ≠ 0 := by
  have htwo : (2 : α) ≠ 0 := ofNat_ne_zero (by decide : 2 ≠ 0)
  have hturn : (180 : α) ≠ 0 := ofNat_ne_zero (by decide : 180 ≠ 0)
  have hgiven (x y : α) := stretch?_eq (x := x) (y := y) (abs_ne_zero_of_ne_zero hrx) (abs_ne_zero_of_ne_zero hry)
  have hgrownX := grown_ne_zero (abs_ne_zero_of_ne_zero hrx)
  have hgrownY := grown_ne_zero (abs_ne_zero_of_ne_zero hry)
  refine ⟨?_, hgrownX _, hgrownY _⟩
  simp only [toCenter?, Scalar.divide?_of_ne_zero htwo, Scalar.divide?_of_ne_zero hturn, hgiven, centerFactor?_eq,
    Scalar.divide?_of_ne_zero (hgrownX _), Scalar.divide?_of_ne_zero (hgrownY _), Option.bind_eq_bind,
    Option.bind_some]
  rfl

/-- An arc with a radius of zero has no center. -/
theorem toCenter?_eq_none (h : arc.rx = 0 ∨ arc.ry = 0) : arc.toCenter? = none := by
  have habs : Scalar.abs arc.rx = 0 ∨ Scalar.abs arc.ry = 0 := by
    have habs : Scalar.abs (0 : α) = 0 := by
      apply toReal_injective
      rw [toReal_abs, toReal_zero, abs_zero]
    exact h.imp (fun hrx => by rw [hrx, habs]) fun hry => by rw [hry, habs]
  have htwo : (2 : α) ≠ 0 := ofNat_ne_zero (by decide : 2 ≠ 0)
  have hturn : (180 : α) ≠ 0 := ofNat_ne_zero (by decide : 180 ≠ 0)
  simp only [toCenter?, Scalar.divide?_of_ne_zero htwo, Scalar.divide?_of_ne_zero hturn, stretch?_eq_none habs,
    Option.bind_eq_bind, Option.bind_some, Option.bind_none]

end EndpointArc

end SvgPage
