import SvgPage.Numeric.Scalar

namespace SvgPage

structure Point (α : Type) where
  x : α
  y : α
deriving DecidableEq, Repr

/-- An affine map of the plane: `(x, y)` goes to `(a x + c y + e, b x + d y + f)`. -/
structure Matrix (α : Type) where
  a : α
  b : α
  c : α
  d : α
  e : α
  f : α
deriving DecidableEq, Repr

namespace Matrix

variable {α : Type} [Scalar α]

def identity : Matrix α := ⟨1, 0, 0, 1, 0, 0⟩

def shift (tx ty : α) : Matrix α := ⟨1, 0, 0, 1, tx, ty⟩

def scaling (sx sy : α) : Matrix α := ⟨sx, 0, 0, sy, 0, 0⟩

/-- The map that applies `right` first and `left` to the result. -/
def multiply (left right : Matrix α) : Matrix α where
  a := left.a * right.a + left.c * right.b
  b := left.b * right.a + left.d * right.b
  c := left.a * right.c + left.c * right.d
  d := left.b * right.c + left.d * right.d
  e := left.a * right.e + left.c * right.f + left.e
  f := left.b * right.e + left.d * right.f + left.f

def apply (m : Matrix α) (x y : α) : Point α := ⟨m.a * x + m.c * y + m.e, m.b * x + m.d * y + m.f⟩

def isIdentity (m : Matrix α) : Bool :=
  m.a == 1 && m.b == 0 && m.c == 0 && m.d == 1 && m.e == 0 && m.f == 0

/-- The same map where the ordinates of points grow upwards from the lower edge of a page: the map is
    conjugated with the reflection `(x, y) ↦ (x, pageHeight - y)`. -/
def flip (m : Matrix α) (pageHeight : α) : Matrix α :=
  ⟨m.a, -m.b, -m.c, m.d, m.e + m.c * pageHeight, pageHeight * (1 - m.d) - m.f⟩

end Matrix

/-- The angle in radians that an angle in degrees is. -/
def radians {α : Type} [Scalar α] (degrees : α) : α := degrees * Scalar.pi / 180

end SvgPage
