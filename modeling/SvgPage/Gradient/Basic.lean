import SvgPage.Color.Device
import SvgPage.Css.Reference
import SvgPage.Table
import SvgPage.Transform

namespace SvgPage

/-- A color of a gradient, at a fraction of its length. -/
structure GradientStop (α : Type) where
  offset : α
  color : DeviceColor α
  opacity : α
deriving DecidableEq, Repr

inductive GradientKind where
  | linear
  | radial
deriving DecidableEq, Repr

/-- What the coordinates of a gradient are measured in. -/
inductive GradientUnits where
  | boundingBox
  | userSpace
deriving DecidableEq, Repr

def GradientUnits.read? : String → Option GradientUnits
  | "objectBoundingBox" => some boundingBox
  | "userSpaceOnUse" => some userSpace
  | _ => none

/-- A gradient as it is declared. Units and transform that are not declared can come from the gradient
    it refers to, which also gives the stops if it has none of its own. -/
structure Gradient (α : Type) where
  id : String
  kind : GradientKind
  attributes : Attributes
  units : Option GradientUnits
  transform : Option (Matrix α)
  href : Option String
  stops : List (GradientStop α)

/-- The address an element refers to. The name without a namespace wins. -/
def Table.href? (attributes : Attributes) : Option String :=
  (attributes.get? "href").or (attributes.get? "xlink:href")

namespace Gradient

variable {α : Type} [Scalar α]

/-- The gradient that a start tag declares, without stops. -/
def ofAttributes (id : String) (kind : GradientKind) (attributes : Attributes) : Gradient α where
  id
  kind
  attributes
  units := attributes.get? "gradientUnits" >>= GradientUnits.read?
  transform := (attributes.get? "gradientTransform").map Transform.read
  href := attributes.href? >>= Css.readLink?
  stops := []

end Gradient

def isPercentage (value : String) : Bool := value.toList.getLast? == some '%'

/-- The offset of a gradient stop. Percentages are fractions of a hundred, and so are numbers above
    one. -/
def readStopOffset {α : Type} [Scalar α] (value : String) : α :=
  let value := Text.trim value
  match readNumber? value with
  | none => 0
  | some number =>
    Scalar.clamp (if isPercentage value || 1 < number then number / 100 else number) 0 1

end SvgPage
