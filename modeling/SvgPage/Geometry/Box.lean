import SvgPage.Geometry.Matrix

namespace SvgPage

structure Size (α : Type) where
  width : α
  height : α
deriving DecidableEq, Repr

/-- A rectangle with sides along the axes, given by a corner and its size. -/
structure Box (α : Type) where
  x : α
  y : α
  width : α
  height : α
deriving DecidableEq, Repr

/-- The extreme coordinates of a set of points; there are none as long as the set is empty. -/
inductive BoundingBox (α : Type) where
  | empty
  | spanning (minX minY maxX maxY : α)
deriving DecidableEq, Repr

namespace BoundingBox

variable {α : Type} [Scalar α]

def union : BoundingBox α → BoundingBox α → BoundingBox α
  | empty, box => box
  | box, empty => box
  | spanning minX minY maxX maxY, spanning minX' minY' maxX' maxY' =>
    spanning (min minX minX') (min minY minY') (max maxX maxX') (max maxY maxY')

def ofPoint (p : Point α) : BoundingBox α := spanning p.x p.y p.x p.y

def insert (box : BoundingBox α) (p : Point α) : BoundingBox α := box.union (ofPoint p)

def insertAll (box : BoundingBox α) (points : List (Point α)) : BoundingBox α := points.foldl insert box

/-- Whether the box holds no point. -/
def isEmpty : BoundingBox α → Bool
  | empty => true
  | spanning minX minY maxX maxY => maxX < minX || maxY < minY

/-- The box as a rectangle. Without points it is one of no size at the origin. -/
def toBox : BoundingBox α → Box α
  | empty => ⟨0, 0, 0, 0⟩
  | spanning minX minY maxX maxY =>
    if (spanning minX minY maxX maxY).isEmpty then ⟨0, 0, 0, 0⟩
    else ⟨minX, minY, maxX - minX, maxY - minY⟩

end BoundingBox

end SvgPage
