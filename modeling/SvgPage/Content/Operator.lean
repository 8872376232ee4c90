import SvgPage.Color.Device
import SvgPage.Content.LineStyle
import SvgPage.Content.Literal
import SvgPage.Geometry.Arc
import SvgPage.Numeric.Fixed

namespace SvgPage

/-- What ends a path: nothing, painting its area, its line or both, or clipping what follows. -/
inductive PaintOperator where
  | endPath
  | fill
  | fillEvenOdd
  | stroke
  | fillStroke
  | fillStrokeEvenOdd
  | clip
  | clipEvenOdd
deriving DecidableEq, Repr

namespace PaintOperator

def text : PaintOperator → String
  | endPath => "n"
  | fill => "f"
  | fillEvenOdd => "f*"
  | stroke => "S"
  | fillStroke => "B"
  | fillStrokeEvenOdd => "B*"
  | clip => "W n"
  | clipEvenOdd => "W* n"

def all : List PaintOperator :=
  [endPath, fill, fillEvenOdd, stroke, fillStroke, fillStrokeEvenOdd, clip, clipEvenOdd]

def ofText? (text : String) : Option PaintOperator := all.find? fun operator => operator.text == text

end PaintOperator

/-- An operator of a content stream with its operands. Resources are named by their number among those of
    their kind. -/
inductive Operator (α : Type) where
  | save
  | restore
  | transform (matrix : Matrix α)
  | moveTo (target : Point α)
  | lineTo (target : Point α)
  | curveTo (cubic : Cubic α)
  | closePath
  | rect (box : Box α)
  | paint (operator : PaintOperator)
  | fillColor (color : DeviceColor α)
  | strokeColor (color : DeviceColor α)
  | lineStyle (style : LineStyle α)
  | graphicsState (number : Nat)
  | shading (number : Nat)
  | image (number : Nat)
  | beginText
  | font (size : α)
  | textPosition (x y : α)
  | showText (text : String)
  | endText
deriving DecidableEq, Repr

/-- Numbers as operands, in fixed point. -/
def writeNumbers (numbers : List Float) : String := " ".intercalate (numbers.map Fixed.text)

def DeviceColor.write (color : DeviceColor Float) : String := writeNumbers color.components

def ColorSpace.fillOperator : ColorSpace → String
  | gray => "g"
  | rgb => "rg"
  | cmyk => "k"

def ColorSpace.strokeOperator : ColorSpace → String
  | gray => "G"
  | rgb => "RG"
  | cmyk => "K"

def LineStyle.write (style : LineStyle Float) : String :=
  writeNumbers [style.width] ++ " w " ++ style.cap.operand ++ " J " ++ style.join.operand ++
    " j " ++ writeNumbers [style.miterLimit] ++ " M [" ++ writeNumbers style.dashArray ++ "] " ++
    writeNumbers [style.dashPhase] ++ " d"

namespace Operator

/-- The operator on a line of its own. -/
def write : Operator Float → String
  | save => "q\n"
  | restore => "Q\n"
  | transform m => writeNumbers [m.a, m.b, m.c, m.d, m.e, m.f] ++ " cm\n"
  | moveTo target => writeNumbers [target.x, target.y] ++ " m\n"
  | lineTo target => writeNumbers [target.x, target.y] ++ " l\n"
  | curveTo ⟨first, second, target⟩ =>
    writeNumbers [first.x, first.y, second.x, second.y, target.x, target.y] ++ " c\n"
  | closePath => "h\n"
  | rect box => writeNumbers [box.x, box.y, box.width, box.height] ++ " re\n"
  | paint operator => operator.text ++ "\n"
  | fillColor color => color.write ++ " " ++ color.space.fillOperator ++ "\n"
  | strokeColor color => color.write ++ " " ++ color.space.strokeOperator ++ "\n"
  | lineStyle style => style.write ++ "\n"
  | graphicsState number => "/GS" ++ toString number ++ " gs\n"
  | shading number => "/Sh" ++ toString number ++ " sh\n"
  | image number => "/Im" ++ toString number ++ " Do\n"
  | beginText => "BT\n"
  | font size => "/F1 " ++ writeNumbers [size] ++ " Tf\n"
  | textPosition x y => writeNumbers [x, y] ++ " Td\n"
  | showText text => Literal.write text ++ " Tj\n"
  | endText => "ET\n"

/-- A content stream. -/
def writeAll (operators : List (Operator Float)) : String := String.join (operators.map write)

end Operator

end SvgPage
