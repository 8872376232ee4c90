import SvgPage.Content.Operator
import SvgPage.Path.Segment

namespace SvgPage

variable {α : Type} [Scalar α]

/-- A point mapped by `matrix` and counted from the lower edge of the page. -/
def Matrix.toPage (matrix : Matrix α) (pageHeight : α) (p : Point α) : Point α :=
  let mapped := matrix.apply p.x p.y
  ⟨mapped.x, pageHeight - mapped.y⟩

/-- The operators that build a segment of which every point is mapped by `toPage`. Arcs are built from
    cubic curves. -/
def Segment.operators (toPage : Point α → Point α) : Segment α → List (Operator α)
  | move target => [.moveTo (toPage target)]
  | line target => [.lineTo (toPage target)]
  | curve cubic => [.curveTo ⟨toPage cubic.first, toPage cubic.second, toPage cubic.target⟩]
  | arc center _ =>
    center.cubics.map fun cubic =>
      .curveTo ⟨toPage cubic.first, toPage cubic.second, toPage cubic.target⟩
  | close => [.closePath]

/-- The operators that build a path mapped by `matrix` on a page of the given height. -/
def Path.operators (path : Path α) (pageHeight : α) (matrix : Matrix α) : List (Operator α) :=
  path.segments.flatMap (Segment.operators (matrix.toPage pageHeight))

end SvgPage
