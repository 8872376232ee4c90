import SvgPage.Geometry.Arc

namespace SvgPage

/-- A piece of a path: it leads from the current point to the point it names. -/
inductive Segment (α : Type) where
  | move (target : Point α)
  | line (target : Point α)
  | curve (cubic : Cubic α)
  | arc (center : CenterArc α) (target : Point α)
  | close
deriving DecidableEq, Repr

/-- A path with the box around its points and control points. -/
structure Path (α : Type) where
  segments : List (Segment α)
  boundingBox : BoundingBox α
deriving DecidableEq, Repr

variable {α : Type} [Scalar α]

/-- The box around the points that a segment names and passes. -/
def Segment.boundingBox : Segment α → BoundingBox α
  | move target | line target => .ofPoint target
  | curve ⟨first, second, target⟩ => BoundingBox.empty.insertAll [first, second, target]
  | arc center _ => center.boundingBox
  | close => .empty

/-- A path made of segments. -/
def Path.ofSegments (segments : List (Segment α)) : Path α where
  segments
  boundingBox := segments.foldl (fun box segment => box.union segment.boundingBox) .empty

end SvgPage
