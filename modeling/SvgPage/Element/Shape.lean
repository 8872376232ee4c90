import SvgPage.Element.Kind
import SvgPage.Path.Pen
import SvgPage.Style.Stroke

namespace SvgPage

variable {α : Type} [Scalar α]

/-- The outline of a rectangle, with corners rounded by quarters of an ellipse if it has radii. -/
def rectSegments (x y width height rx ry : α) : List (Segment α) :=
  let right := x + width
  let bottom := y + height
  if rx ≤ 0 || ry ≤ 0 then
    [.move ⟨x, y⟩, .line ⟨right, y⟩, .line ⟨right, bottom⟩, .line ⟨x, bottom⟩, .close]
  else
    let corner (cx cy startAngle endX endY : α) : Segment α :=
      .arc ⟨cx, cy, rx, ry, 0, startAngle, Scalar.pi / 2⟩ ⟨endX, endY⟩
    [.move ⟨x + rx, y⟩,
      .line ⟨right - rx, y⟩, corner (right - rx) (y + ry) (-Scalar.pi / 2) right (y + ry),
      .line ⟨right, bottom - ry⟩, corner (right - rx) (bottom - ry) 0 (right - rx) bottom,
      .line ⟨x + rx, bottom⟩, corner (x + rx) (bottom - ry) (Scalar.pi / 2) x (bottom - ry),
      .line ⟨x, y + ry⟩, corner (x + rx) (y + ry) Scalar.pi (x + rx) y,
      .close]

def ellipseSegments (cx cy rx ry : α) : List (Segment α) :=
  [.move ⟨cx + rx, cy⟩, .arc ⟨cx, cy, rx, ry, 0, 0, 2 * Scalar.pi⟩ ⟨cx + rx, cy⟩, .close]

/-- The points that pairs of numbers denote. An odd number at the end is left out. -/
def readPoints : List α → List (Point α)
  | x :: y :: rest => ⟨x, y⟩ :: readPoints rest
  | _ => []

def polylineSegments (points : List (Point α)) (closed : Bool) : List (Segment α) :=
  match points with
  | [] => []
  | first :: rest => .move first :: rest.map .line ++ if closed then [.close] else []

/-- What the attributes of a shape are read with: the size that percentages refer to, what lengths refer
    to, and the smallest length in path data. -/
structure ShapeContext (α : Type) where
  viewport : Size α
  lengths : Css.LengthContext α
  minLength : α

namespace ShapeContext

variable (context : ShapeContext α) (attributes : Attributes)

def horizontal? (name : String) : Option α :=
  attributes.get? name >>= fun value => Css.Length.read? value context.viewport.width context.lengths

def vertical? (name : String) : Option α :=
  attributes.get? name >>= fun value => Css.Length.read? value context.viewport.height context.lengths

def horizontal (name : String) : α := (context.horizontal? attributes name).getD 0

def vertical (name : String) : α := (context.vertical? attributes name).getD 0

def diagonal (name : String) : α :=
  (attributes.get? name >>= fun value =>
    Css.Length.read? value context.viewport.diagonal context.lengths).getD 0

def rect? : Option (Path α) :=
  let width := context.horizontal attributes "width"
  let height := context.vertical attributes "height"
  if width ≤ 0 || height ≤ 0 then
    none
  else
    let rx := context.horizontal? attributes "rx"
    let ry := context.vertical? attributes "ry"
    some (.ofSegments (rectSegments (context.horizontal attributes "x") (context.vertical attributes "y")
      width height (min (max ((rx.or ry).getD 0) 0) (width / 2))
      (min (max ((ry.or rx).getD 0) 0) (height / 2))))

def ellipse? (rx ry : α) : Option (Path α) :=
  if 0 < rx && 0 < ry then
    some (.ofSegments (ellipseSegments (context.horizontal attributes "cx")
      (context.vertical attributes "cy") rx ry))
  else
    none

/-- The outline of a shape element, in its own user space. Shapes without extent have none. -/
def path? : ShapeKind → Option (Path α)
  | .path =>
    let path := Path.interpret context.minLength ((attributes.get? "d").getD "")
    if path.segments.isEmpty then none else some path
  | .rect => context.rect? attributes
  | .circle =>
    let radius := context.diagonal attributes "r"
    context.ellipse? attributes radius radius
  | .ellipse =>
    context.ellipse? attributes (context.horizontal attributes "rx") (context.vertical attributes "ry")
  | .line =>
    some (.ofSegments
      [.move ⟨context.horizontal attributes "x1", context.vertical attributes "y1"⟩,
        .line ⟨context.horizontal attributes "x2", context.vertical attributes "y2"⟩])
  | .polyline => polyline? false
  | .polygon => polyline? true
where
  polyline? (closed : Bool) : Option (Path α) :=
    let points := readPoints (Css.readNumberList ((attributes.get? "points").getD ""))
    if points.isEmpty then none else some (.ofSegments (polylineSegments points closed))

end ShapeContext

end SvgPage
