import SvgPage.Css.Value
import SvgPage.Geometry.Matrix
import SvgPage.Numeric.Numeral

namespace SvgPage.Transform

variable {α : Type} [Scalar α]

/-- The rotation by an angle in degrees around a point. -/
def rotation (degrees cx cy : α) : Matrix α :=
  let angle := radians degrees
  let cos := Scalar.cos angle
  let sin := Scalar.sin angle
  ⟨cos, sin, -sin, cos, cx - cos * cx + sin * cy, cy - sin * cx - cos * cy⟩

/-- The map that a transform function denotes. Unknown functions and missing arguments change nothing. -/
def ofFunction (name : String) (arguments : List α) : Matrix α :=
  match name, arguments with
  | "matrix", a :: b :: c :: d :: e :: f :: _ => ⟨a, b, c, d, e, f⟩
  | "translate", tx :: rest => .shift tx (rest.head?.getD 0)
  | "scale", sx :: rest => .scaling sx (rest.head?.getD sx)
  | "rotate", angle :: rest => rotation angle (rest[0]?.getD 0) (rest[1]?.getD 0)
  | "skewX", angle :: _ => ⟨1, 0, Scalar.tan (radians angle), 1, 0, 0⟩
  | "skewY", angle :: _ => ⟨1, Scalar.tan (radians angle), 0, 1, 0, 0⟩
  | _, _ => .identity

/-- The maps of the functions in a value, from left to right. -/
def functions (value : String) : List (Matrix α) :=
  (Css.parseValue value).filterMap fun component =>
    match component with
    | .function name _ arguments _ _ =>
      some (ofFunction name ((Css.Component.words arguments).filterMap readNumber?))
    | _ => none

/-- The map a list of transform functions denotes: the one on the right acts first. -/
def read (value : String) : Matrix α := (functions value).foldl Matrix.multiply .identity

end SvgPage.Transform
