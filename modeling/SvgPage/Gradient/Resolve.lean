import SvgPage.Css.Length
import SvgPage.Geometry.Box
import SvgPage.Gradient.Basic

namespace SvgPage

/-- Where a gradient begins and ends, in fractions of the painted box with ordinates that grow upwards: a
    line from the first stop to the last, or a circle around a focus. -/
inductive GradientGeometry (α : Type) where
  | linear (start stop : Point α)
  | radial (center focus : Point α) (radius : α)
deriving DecidableEq, Repr

/-- A gradient ready to be painted. `placement` maps the unit square of its geometry to the painted
    box. -/
structure ResolvedGradient (α : Type) where
  geometry : GradientGeometry α
  placement : Matrix α
  stops : List (GradientStop α)
deriving DecidableEq, Repr

/-- How the coordinates of a gradient are read: percentages of the box, lengths, or fractions of the
    box. -/
inductive CoordinateMode where
  | percentage
  | measure
  | ratio
deriving DecidableEq, Repr

/-- What a gradient is painted on: the box around the element, in its user space, and the height of the
    page it lies on. -/
structure GradientTarget (α : Type) where
  box : Box α
  pageHeight : α
  lengths : Css.LengthContext α

variable {α : Type} [Scalar α]

/-- A percentage as a fraction between zero and one; zero if there is no number. -/
def readFraction (value : String) : α :=
  match Numeral.read? value with
  | none => 0
  | some (.infinite negative) => if negative then 0 else 1
  | some (.finite decimal) => Scalar.clamp (decimal.value / 100) 0 1

/-- Whether the number at the start of a text is at most one. -/
def isAtMostOne (α : Type) [Scalar α] (value : String) : Bool :=
  match Numeral.read? value with
  | none => false
  | some (.infinite negative) => negative
  | some (.finite decimal) => (decimal.value : α) ≤ 1

namespace Gradient

/-- The mode that the first coordinate of the gradient and its radius ask for. -/
def coordinateMode (α : Type) [Scalar α] (kind : GradientKind) (attributes : Attributes) : CoordinateMode :=
  let first := match kind with
    | .linear => (attributes.get? "x1").getD "0%"
    | .radial => (attributes.get? "cx").getD "50%"
  if isPercentage (Text.trim first) then .percentage
  else
    match kind, (attributes.get? "r").map Text.trim with
    | .radial, some radius =>
      if !isPercentage radius && isAtMostOne α radius then .ratio else .measure
    | _, _ => .measure

/-- The value of a coordinate that is not given. -/
def defaultCoordinate : GradientKind → String → String
  | .linear, "x1" | .linear, "y1" | .linear, "y2" => "0%"
  | .linear, "x2" => "100%"
  | .radial, "cx" | .radial, "cy" | .radial, "r" => "50%"
  | _, _ => "0"

/-- The gradients that a gradient refers to in turn, with itself first. It ends at an id that is unknown
    or has been met before, so it is no longer than the table of all gradients; `room` is how much
    longer it can get. -/
def chainFrom (gradients : Table (Gradient α)) :
    (room : Nat) → (visited : List String) → (id : String) → List (Gradient α)
  | 0, _, _ => []
  | room + 1, visited, id =>
    if visited.contains id then []
    else
      match gradients.get? id with
      | none => []
      | some gradient =>
        match gradient.href with
        | none => [gradient]
        | some next => gradient :: chainFrom gradients room (id :: visited) next

def chain (gradients : Table (Gradient α)) (id : String) : List (Gradient α) :=
  chainFrom gradients gradients.size [] id

inductive Axis where
  | x
  | y

/-- A gradient that is read for a target, with its mode and whether its coordinates are lengths in user
    space. -/
structure Reading (α : Type) where
  gradient : Gradient α
  target : GradientTarget α
  mode : CoordinateMode
  userSpace : Bool

namespace Reading

variable (reading : Reading α)

def value (name : String) : String :=
  Text.trim ((reading.gradient.attributes.get? name).getD
    (defaultCoordinate reading.gradient.kind name))

def transform : Matrix α := reading.gradient.transform.getD .identity

/-- A coordinate as it is declared. Percentages refer to the box, so they become lengths where the
    others are. -/
def coordinate (name : String) (axis : Axis) : α :=
  let value := reading.value name
  let box := reading.target.box
  if isPercentage value then
    let fraction : α := readFraction value
    if !reading.userSpace then fraction
    else
      match axis with
      | .x => box.x + fraction * box.width
      | .y => box.y + fraction * box.height
  else if reading.mode == .percentage then readFraction value
  else (Css.Length.read? value 0 reading.target.lengths).getD 0

/-- A declared point in fractions of the box, with the ordinate counted from below. -/
def toFraction (x y : α) : Point α :=
  let point := reading.transform.apply x y
  let box := reading.target.box
  if reading.userSpace then
    let fractionX := if box.width == 0 then 0 else (point.x - box.x) / box.width
    let fractionY := if box.height == 0 then 0 else (point.y - box.y) / box.height
    ⟨fractionX, 1 - fractionY⟩
  else
    ⟨point.x, 1 - point.y⟩

/-- The radius in fractions of the box's width, scaled as the transform scales areas. -/
def radius : α :=
  let value := reading.value "r"
  let box := reading.target.box
  let declared : α :=
    if isPercentage value || reading.mode == .percentage then readFraction value
    else (Css.Length.read? value 0 reading.target.lengths).getD 0
  let fraction :=
    if reading.userSpace && !isPercentage value then
      if box.width == 0 then 0 else declared / box.width
    else
      declared
  let m := reading.transform
  fraction * Scalar.sqrt (Scalar.abs (m.a * m.d - m.b * m.c))

/-- The geometry of the gradient. Two equal end points have no direction; in their place stand points that
    leave the box to the last stop. -/
def geometry : GradientGeometry α :=
  match reading.gradient.kind with
  | .linear =>
    let start := reading.toFraction (reading.coordinate "x1" .x) (reading.coordinate "y1" .y)
    let stop := reading.toFraction (reading.coordinate "x2" .x) (reading.coordinate "y2" .y)
    if start.x == stop.x && start.y == stop.y then .linear ⟨1, 0⟩ ⟨0.999, 0⟩ else .linear start stop
  | .radial =>
    let cx := reading.coordinate "cx" .x
    let cy := reading.coordinate "cy" .y
    let fx := if reading.gradient.attributes.contains "fx" then reading.coordinate "fx" .x else cx
    let fy := if reading.gradient.attributes.contains "fy" then reading.coordinate "fy" .y else cy
    .radial (reading.toFraction cx cy) (reading.toFraction fx fy) reading.radius

end Reading

/-- The stops in the order of their offsets; stops of one offset keep their order. -/
def sortStops (stops : List (GradientStop α)) : List (GradientStop α) :=
  stops.mergeSort fun a b => !decide (b.offset < a.offset)

/-- The gradient with the given id as it paints a target. There is none if the id is unknown or no gradient
    of its chain has stops. The first gradient of the chain that has stops gives them, and the first
    that declares units gives the units. -/
def resolve? (gradients : Table (Gradient α)) (id : String) (target : GradientTarget α) :
    Option (ResolvedGradient α) := do
  let chain := chain gradients id
  let gradient ← chain.head?
  let source ← chain.find? fun gradient => !gradient.stops.isEmpty
  let units := (chain.findSome? Gradient.units).getD .boundingBox
  let mode := coordinateMode α gradient.kind gradient.attributes
  let reading : Reading α := ⟨gradient, target, mode, mode == .measure && units == .userSpace⟩
  let box := target.box
  return {
    geometry := reading.geometry
    placement := ⟨box.width, 0, 0, box.height, box.x, target.pageHeight - box.y - box.height⟩
    stops := sortStops source.stops }

end Gradient

end SvgPage
