import SvgPage.Geometry.Box

namespace SvgPage

/-- An arc of an ellipse with the given center and radii. `rotation` is the angle of the ellipse's first
    axis; the arc starts at the parameter `startAngle` and runs through `sweep`, which is negative
    where the angle decreases. All angles are in radians. -/
structure CenterArc (α : Type) where
  cx : α
  cy : α
  rx : α
  ry : α
  rotation : α
  startAngle : α
  sweep : α
deriving DecidableEq, Repr

/-- An arc given by its end points, with the rotation in degrees. Of the four arcs there can be, the
    flags select the longer or shorter ones and those with increasing or decreasing angle. -/
structure EndpointArc (α : Type) where
  x1 : α
  y1 : α
  rx : α
  ry : α
  rotation : α
  large : Bool
  sweep : Bool
  x2 : α
  y2 : α
deriving DecidableEq, Repr

/-- A cubic curve from the current point to `target`. -/
structure Cubic (α : Type) where
  first : Point α
  second : Point α
  target : Point α
deriving DecidableEq, Repr

variable {α : Type} [Scalar α]

/-- The angle from the direction `(ux, uy)` to the direction `(vx, vy)`. A half turn is positive. -/
def vectorAngle (ux uy vx vy : α) : α :=
  let angle := Scalar.atan2 (ux * vy - uy * vx) (ux * vx + uy * vy)
  if angle == -Scalar.pi then Scalar.pi else angle

namespace EndpointArc

/-- How much larger than given the radii have to be for the ellipse to reach both end points, squared,
    where `(x, y)` is half the way between them in the ellipse's own axes. At most one means that the
    radii suffice. -/
def stretch (x y rx ry : α) : α := x * x / (rx * rx) + y * y / (ry * ry)

/-- How far the center lies from the middle of the end points, in the ellipse's own axes and relative to
    the radii. It is zero where the radii just span the end points. -/
def centerFactor (arc : EndpointArc α) (x y rx ry : α) : α :=
  let rx2 := rx * rx
  let ry2 := ry * ry
  let numerator := rx2 * ry2 - rx2 * y * y - ry2 * x * x
  let denominator := rx2 * y * y + ry2 * x * x
  let root := if numerator ≤ 0 || denominator == 0 then 0 else Scalar.sqrt (numerator / denominator)
  if arc.large == arc.sweep then -root else root

/-- The sweep from one direction to another, on the side that the flag asks for. -/
def directedSweep (sweep : Bool) (angle : α) : α :=
  if !sweep && 0 < angle then angle - 2 * Scalar.pi
  else if sweep && angle < 0 then angle + 2 * Scalar.pi
  else angle

/-- The arc by its center. Radii that cannot span the end points grow by one common factor. -/
def toCenter (arc : EndpointArc α) : CenterArc α :=
  let rotation := radians arc.rotation
  let cos := Scalar.cos rotation
  let sin := Scalar.sin rotation
  let halfX := (arc.x1 - arc.x2) / 2
  let halfY := (arc.y1 - arc.y2) / 2
  let x := cos * halfX + sin * halfY
  let y := -sin * halfX + cos * halfY
  let given := stretch x y (Scalar.abs arc.rx) (Scalar.abs arc.ry)
  let grow (radius : α) := if 1 < given then radius * Scalar.sqrt given else radius
  let rx := grow (Scalar.abs arc.rx)
  let ry := grow (Scalar.abs arc.ry)
  let factor := arc.centerFactor x y rx ry
  let offsetX := factor * rx * y / ry
  let offsetY := -factor * ry * x / rx
  let ux := (x - offsetX) / rx
  let uy := (y - offsetY) / ry
  let vx := (-x - offsetX) / rx
  let vy := (-y - offsetY) / ry
  { cx := cos * offsetX - sin * offsetY + (arc.x1 + arc.x2) / 2
    cy := sin * offsetX + cos * offsetY + (arc.y1 + arc.y2) / 2
    rx
    ry
    rotation
    startAngle := vectorAngle 1 0 ux uy
    sweep := directedSweep arc.sweep (vectorAngle ux uy vx vy) }

end EndpointArc

namespace CenterArc

/-- The point at a parameter. -/
def point (arc : CenterArc α) (angle : α) : Point α :=
  let cos := Scalar.cos arc.rotation
  let sin := Scalar.sin arc.rotation
  let ex := arc.rx * Scalar.cos angle
  let ey := arc.ry * Scalar.sin angle
  ⟨arc.cx + cos * ex - sin * ey, arc.cy + sin * ex + cos * ey⟩

/-- The derivative of `point` by the parameter. -/
def tangent (arc : CenterArc α) (angle : α) : Point α :=
  let cos := Scalar.cos arc.rotation
  let sin := Scalar.sin arc.rotation
  let dx := -arc.rx * Scalar.sin angle
  let dy := arc.ry * Scalar.cos angle
  ⟨cos * dx - sin * dy, sin * dx + cos * dy⟩

/-- The curve with the arc's end points and tangents between two parameters. `kappa` is the length of its
    arms relative to the tangents. -/
def cubicBetween (arc : CenterArc α) (kappa angle next : α) : Cubic α :=
  let start := arc.point angle
  let stop := arc.point next
  let leaving := arc.tangent angle
  let arriving := arc.tangent next
  { first := ⟨start.x + kappa * leaving.x, start.y + kappa * leaving.y⟩
    second := ⟨stop.x - kappa * arriving.x, stop.y - kappa * arriving.y⟩
    target := stop }

def cubicsFrom (arc : CenterArc α) (kappa delta : α) : (count : Nat) → (angle : α) → List (Cubic α)
  | 0, _ => []
  | count + 1, angle =>
    arc.cubicBetween kappa angle (angle + delta) :: cubicsFrom arc kappa delta count (angle + delta)

/-- How many curves stand for the arc: one for each started quarter turn, and at least one. -/
def cubicCount (arc : CenterArc α) : Nat :=
  let quarters := Scalar.abs arc.sweep / (Scalar.pi / 2) - 1e-9
  if quarters ≤ 1 then 1 else Scalar.ceilNat quarters

/-- Cubic curves of equal sweep that approximate the arc. -/
def cubics (arc : CenterArc α) : List (Cubic α) :=
  let delta := arc.sweep / Scalar.ofNat arc.cubicCount
  arc.cubicsFrom (4 / 3 * Scalar.tan (delta / 4)) delta arc.cubicCount arc.startAngle

/-- The parameters, within two turns of the first one, at which the ellipse has an extreme abscissa or
    ordinate. -/
def extrema (arc : CenterArc α) : List α :=
  let cos := Scalar.cos arc.rotation
  let sin := Scalar.sin arc.rotation
  let bases := [Scalar.atan2 (-arc.ry * sin) (arc.rx * cos), Scalar.atan2 (arc.ry * cos) (arc.rx * sin)]
  bases.flatMap fun base =>
    ([-2, -1, 0, 1, 2] : List α).flatMap fun turn =>
      [base + turn * 2 * Scalar.pi, base + Scalar.pi + turn * 2 * Scalar.pi]

/-- The smallest box around the arc: around its end points and the extreme points it passes. -/
def boundingBox (arc : CenterArc α) : BoundingBox α :=
  let stop := arc.startAngle + arc.sweep
  let low := min arc.startAngle stop
  let high := max arc.startAngle stop
  let passed := arc.extrema.filter fun angle => low < angle && angle < high
  BoundingBox.empty.insertAll (arc.point arc.startAngle :: arc.point stop :: passed.map arc.point)

end CenterArc

end SvgPage
