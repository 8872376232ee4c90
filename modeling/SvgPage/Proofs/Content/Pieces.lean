import SvgPage.Content.Resource
import SvgPage.Proofs.Numeric.FixedPoint

namespace SvgPage

/-- A part of what is written: a fixed text, or a number. -/
inductive Piece where
  | word (text : String)
  | number (value : Float)

namespace Piece

def text : Piece → String
  | word text => text
  | number value => Fixed.text value

def write (pieces : List Piece) : String := String.join (pieces.map text)

def value? : Piece → Option Float
  | word _ => none
  | number value => some value

/-- The numbers among parts. -/
def values (pieces : List Piece) : List Float := pieces.filterMap value?

theorem write_nil : write [] = "" := rfl

theorem write_cons (piece : Piece) (rest : List Piece) : write (piece :: rest) = piece.text ++ write rest :=
  String.join_cons

theorem write_append (first second : List Piece) : write (first ++ second) = write first ++ write second := by
  rw [write, List.map_append, String.join_append]
  rfl

theorem write_flatMap {β : Type} (pieces : β → List Piece) (parts : List β) :
    write (parts.flatMap pieces) = String.join (parts.map fun part => write (pieces part)) := by
  induction parts with
  | nil => rfl
  | cons part rest ih => rw [List.flatMap_cons, write_append, List.map_cons, String.join_cons, ih]

/-- Parts that are written one after the other, with blanks in between. -/
def joined : List (List Piece) → List Piece
  | [] => []
  | [part] => part
  | part :: rest => part ++ word " " :: joined rest

theorem write_joined (parts : List (List Piece)) : write (joined parts) = " ".intercalate (parts.map write) := by
  fun_induction joined parts with
  | case1 => rfl
  | case2 part => rw [List.map_singleton, String.intercalate_singleton]
  | case3 part rest hrest ih =>
    obtain ⟨next, more, rfl⟩ := List.exists_cons_of_ne_nil fun hnil => hrest hnil
    rw [write_append, write_cons, ih, List.map_cons, List.map_cons, List.map_cons, String.intercalate_cons_cons,
      String.append_assoc]
    rfl

def numbers (values : List Float) : List Piece := joined (values.map fun value => [number value])

theorem write_numbers (values : List Float) : write (numbers values) = writeNumbers values := by
  rw [numbers, write_joined, List.map_map, writeNumbers]
  exact congrArg " ".intercalate (List.map_congr_left fun value _ => (write_cons _ _).trans String.append_empty)

end Piece

open Piece

/-- The parts of which an operator consists. -/
def Operator.pieces : Operator Float → List Piece
  | save => [word "q\n"]
  | restore => [word "Q\n"]
  | transform m => numbers [m.a, m.b, m.c, m.d, m.e, m.f] ++ [word " cm\n"]
  | moveTo target => numbers [target.x, target.y] ++ [word " m\n"]
  | lineTo target => numbers [target.x, target.y] ++ [word " l\n"]
  | curveTo ⟨first, second, target⟩ =>
    numbers [first.x, first.y, second.x, second.y, target.x, target.y] ++ [word " c\n"]
  | closePath => [word "h\n"]
  | rect box => numbers [box.x, box.y, box.width, box.height] ++ [word " re\n"]
  | paint operator => [word operator.text, word "\n"]
  | fillColor color => numbers color.components ++ [word " ", word color.space.fillOperator, word "\n"]
  | strokeColor color => numbers color.components ++ [word " ", word color.space.strokeOperator, word "\n"]
  | lineStyle style =>
    [number style.width, word " w ", word style.cap.operand, word " J ", word style.join.operand, word " j ",
      number style.miterLimit, word " M ["] ++ numbers style.dashArray ++
      [word "] ", number style.dashPhase, word " d", word "\n"]
  | graphicsState index => [word "/GS", word (toString index), word " gs\n"]
  | shading index => [word "/Sh", word (toString index), word " sh\n"]
  | image index => [word "/Im", word (toString index), word " Do\n"]
  | beginText => [word "BT\n"]
  | font size => [word "/F1 ", number size, word " Tf\n"]
  | textPosition x y => numbers [x, y] ++ [word " Td\n"]
  | showText text => [word (Literal.write text), word " Tj\n"]
  | endText => [word "ET\n"]

theorem writeNumbers_singleton (value : Float) : writeNumbers [value] = Fixed.text value :=
  String.intercalate_singleton

theorem Operator.write_pieces (operator : Operator Float) : Piece.write operator.pieces = operator.write := by
  cases operator
  all_goals
    simp only [pieces, write_append, write_cons, write_nil, write_numbers, Piece.text, write, DeviceColor.write,
      LineStyle.write, writeNumbers_singleton, String.append_empty, String.append_assoc]

/-- A content stream consists of the parts of its operators. -/
theorem Operator.writeAll_pieces (operators : List (Operator Float)) :
    Piece.write (operators.flatMap pieces) = writeAll operators := by
  rw [write_flatMap, writeAll]
  exact congrArg String.join (List.map_congr_left fun operator _ => operator.write_pieces)

namespace ShadingFunction

def partPieces (first last : DeviceColor Float) : List Piece :=
  [word "<< /FunctionType 2 /Domain [0 1] /C0 ["] ++ numbers first.components ++ [word "] /C1 ["] ++
    numbers last.components ++ [word "] /N 1 >>"]

theorem write_partPieces (first last : DeviceColor Float) :
    Piece.write (partPieces first last) = writePart first last := by
  unfold partPieces writePart DeviceColor.write
  simp only [write_append, write_cons, write_nil, write_numbers, Piece.text, String.append_empty,
    String.append_assoc]

def pieces : ShadingFunction Float → List Piece
  | interpolation first last => partPieces first last
  | stitching parts bounds =>
    [word "<< /FunctionType 3 /Domain [0 1] /Functions ["] ++
      joined (parts.map fun (first, last) => partPieces first last) ++ [word "] /Bounds ["] ++ numbers bounds ++
      [word "] /Encode [", word (" ".intercalate (parts.map fun _ => "0 1")), word "] >>"]

theorem write_pieces (function : ShadingFunction Float) : Piece.write function.pieces = function.write := by
  cases function with
  | interpolation first last => exact write_partPieces first last
  | stitching parts bounds =>
    have hparts : (parts.map fun (first, last) => partPieces first last).map Piece.write =
        parts.map fun (first, last) => writePart first last := by
      rw [List.map_map]
      exact List.map_congr_left fun part _ => write_partPieces part.1 part.2
    unfold pieces write
    simp only [write_append, write_cons, write_nil, write_numbers, write_joined, hparts, Piece.text,
      String.append_empty, String.append_assoc]

end ShadingFunction

/-- The shading type is a number as well, but a fixed one. -/
def GradientGeometry.pieces : GradientGeometry Float → List Piece
  | linear start stop => numbers [start.x, start.y, stop.x, stop.y]
  | radial center focus radius => numbers [focus.x, focus.y, 0, center.x, center.y, radius]

theorem GradientGeometry.write_pieces (geometry : GradientGeometry Float) :
    Piece.write geometry.pieces = geometry.write.2 := by
  cases geometry <;> exact write_numbers _

def Shading.pieces (shading : Shading Float) : List Piece :=
  [word "<< /ShadingType ", word shading.geometry.write.1, word " /ColorSpace ", word shading.space.name,
    word " /Coords ["] ++ shading.geometry.pieces ++ [word "] /Domain [0 1] /Function "] ++ shading.function.pieces ++
    [word " /Extend [true true] >>"]

theorem Shading.write_pieces (shading : Shading Float) : Piece.write shading.pieces = shading.write := by
  unfold pieces write
  simp only [write_append, write_cons, write_nil, shading.geometry.write_pieces, shading.function.write_pieces,
    Piece.text, String.append_empty, String.append_assoc]

/-- The parts of which the dictionary of a resource consists. -/
def Resource.pieces : Resource Float → List Piece
  | graphicsState fillAlpha strokeAlpha blendMode =>
    [word "<< /Type /ExtGState /CA ", number strokeAlpha, word " /ca ", number fillAlpha, word " /BM /",
      word blendMode.name, word " >>"]
  | shading content => content.pieces
  | image _ => [word "<< /Type /XObject /Subtype /Image >>"]

theorem Resource.write_pieces (resource : Resource Float) : Piece.write resource.pieces = resource.write := by
  cases resource with
  | graphicsState fillAlpha strokeAlpha blendMode =>
    unfold pieces write
    simp only [write_cons, write_nil, Piece.text, writeNumbers_singleton, String.append_empty, String.append_assoc]
  | shading content => exact content.write_pieces
  | image bytes =>
    unfold pieces write
    rw [write_cons, write_nil, String.append_empty]
    rfl

end SvgPage
