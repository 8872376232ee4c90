import SvgPage.Css.Reserved

namespace SvgPage

inductive LineCap where
  | butt
  | round
  | square
  | reserved (meaning : Css.Reserved)
deriving DecidableEq, Repr

namespace LineCap

/-- The cap as an operand: its code, unless a reserved word took the place of a cap. -/
def operand : LineCap → String
  | butt => "0"
  | round => "1"
  | square => "2"
  | reserved meaning => meaning.text

/-- The cap a style value names. Lines are cut off at their ends if it names none. -/
def read : String → LineCap
  | "round" => round
  | "square" => square
  | word => (Css.Reserved.ofWord? word).elim butt reserved

end LineCap

inductive LineJoin where
  | miter
  | round
  | bevel
  | reserved (meaning : Css.Reserved)
deriving DecidableEq, Repr

namespace LineJoin

/-- The join as an operand: its code, unless a reserved word took the place of a join. -/
def operand : LineJoin → String
  | miter => "0"
  | round => "1"
  | bevel => "2"
  | reserved meaning => meaning.text

/-- The join a style value names. Corners are pointed if it names none. -/
def read : String → LineJoin
  | "round" => round
  | "bevel" => bevel
  | word => (Css.Reserved.ofWord? word).elim miter reserved

end LineJoin

/-- How lines are drawn. Without dashes a line is solid. -/
structure LineStyle (α : Type) where
  width : α
  cap : LineCap
  join : LineJoin
  miterLimit : α
  dashArray : List α
  dashPhase : α
deriving DecidableEq, Repr

end SvgPage
