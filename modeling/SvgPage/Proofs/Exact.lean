import SvgPage.Drawing.Draw
import SvgPage.Proofs.Traversal.Tag

namespace SvgPage

/-- Exact numbers. Roots and the values of trigonometric functions are not rational; drawings without arcs,
    rotations and diagonals do not need them. -/
instance : Scalar Rat where
  min x y := if x ≤ y then x else y
  max x y := if x ≤ y then y else x
  decideLT := inferInstance
  decideLE := inferInstance
  ofDecimal digits exponent := digits * (10 : Rat) ^ exponent
  isFinite _ := true
  sqrt _ := 0
  abs x := if 0 ≤ x then x else -x
  sin _ := 0
  cos _ := 1
  tan _ := 0
  atan2 _ _ := 0
  pi := 3141592653589793 / 1000000000000000
  ceilNat x := x.ceil.toNat
  toText x := toString x

namespace Exact

/-- A drawing of ten by twenty points, in which uses nest twice at most and no file is found. -/
def setting : Setting Rat where
  options := ⟨96, 0, .ofNumber (2 : Rat), fun _ => none⟩
  pageHeight := 100
  depth := 0
  placement := ⟨.shift 0 0, ⟨10, 20⟩⟩

/-- The start tag of a root. -/
def root : MarkupEvent := .startTag "svg" ⟨[]⟩

/-- A definition and a use of it. -/
def content : List MarkupEvent :=
  [.startTag "defs" ⟨[]⟩, .startTag "rect" ⟨[("id", "r"), ("width", "5"), ("height", "4")]⟩, .endTag "rect",
    .endTag "defs", .startTag "use" ⟨[("href", "#r")]⟩, .endTag "use"]

/-- What the definition stands for. -/
def defined : List DefinitionEvent :=
  [.startTag "rect" ⟨[("id", "r"), ("width", "5"), ("height", "4")]⟩ "", .endTag "rect" ""]

/-- A group with a definition and a use of it. -/
def group : List MarkupEvent := .startTag "g" ⟨[]⟩ :: (content ++ [.endTag "g"])

theorem group_isElement : MarkupEvent.IsElement group := ⟨"g", ⟨[]⟩, content, rfl, rfl⟩

/-- The events of a document with nothing but the group in its root. -/
def document : List MarkupEvent := root :: (group ++ [.endTag "svg"])

theorem document_isDocument : MarkupEvent.IsDocument document :=
  ⟨[], document, [], rfl, rfl, ⟨"svg", ⟨[]⟩, group, rfl, rfl⟩, rfl⟩

/-- The start tag of a group that is moved, and covers half of what lies under it. -/
def veil : MarkupEvent := .startTag "g" ⟨[("opacity", "0.5"), ("transform", "translate(1 2)")]⟩

/-- The tags of a rectangle that itself covers half of what lies under it. -/
def pane : List MarkupEvent :=
  [.startTag "rect" ⟨[("width", "5"), ("height", "4"), ("fill-opacity", "0.5")]⟩, .endTag "rect"]

/-- What is left of a document inside the group. -/
def veiled : List MarkupEvent := pane ++ [.endTag "g", .endTag "svg"]

theorem veiled_isDocument : MarkupEvent.IsDocument ([root, veil] ++ veiled) :=
  ⟨[], _, [], rfl, rfl, ⟨"svg", ⟨[]⟩, veil :: (pane ++ [.endTag "g"]), rfl, rfl⟩, rfl⟩

/-- The start tags of a root and of a text that covers half of what lies under it. -/
def faint : List MarkupEvent := [root, .startTag "text" ⟨[("opacity", "0.5")]⟩]

/-- What comes before the content of a clip path, with a definition in front of it. -/
def clipping : List MarkupEvent :=
  [root, .startTag "defs" ⟨[]⟩, .startTag "rect" ⟨[("id", "r"), ("width", "5"), ("height", "4")]⟩,
    .endTag "rect", .endTag "defs", .startTag "clipPath" ⟨[("id", "c")]⟩]

/-- The beginning of a document with a rectangle in a clip path. -/
def clipPath (id : String) : List MarkupEvent :=
  [root, .startTag "clipPath" ⟨[("id", id)]⟩, .startTag "rect" ⟨[("width", "5"), ("height", "4")]⟩, .endTag "rect",
    .endTag "clipPath"]

/-- The tags of a clip path that has neither an id nor content. -/
def unnamed : List MarkupEvent := [.startTag "clipPath" ⟨[]⟩, .endTag "clipPath"]

/-- The start tag of a use of the definition. -/
def use : MarkupEvent := .startTag "use" ⟨[("href", "#r")]⟩

/-- A rectangle, and a use of it that has an id of its own. -/
def linking : List MarkupEvent :=
  [root, .startTag "rect" ⟨[("id", "r"), ("width", "5"), ("height", "4")]⟩, .endTag "rect",
    .startTag "use" ⟨[("id", "u"), ("href", "#r")]⟩, .endTag "use"]

/-- The start tag of a use of that use. -/
def linked : MarkupEvent := .startTag "use" ⟨[("href", "#u")]⟩

/-- The attributes of a group that is moved. -/
def own : Attributes := ⟨[("id", "g"), ("transform", "translate(1 2)")]⟩

/-- The attributes of a use that moves the group again. -/
def moved : Attributes := ⟨[("href", "#g"), ("x", "3"), ("y", "4"), ("transform", "scale(2)")]⟩

/-- The beginning of a document with the group in its root. -/
def moving : List MarkupEvent := [root, .startTag "g" own, .endTag "g"]

/-- What is left of a document with the use in its root. -/
def placed : List MarkupEvent := [.startTag "use" moved, .endTag "use", .endTag "svg"]

theorem placed_isDocument : MarkupEvent.IsDocument (moving ++ placed) :=
  ⟨[], _, [], rfl, rfl, ⟨"svg", ⟨[]⟩, moving.tail ++ [.startTag "use" moved, .endTag "use"], rfl, rfl⟩, rfl⟩

/-- A rectangle with a transform of its own. -/
def scaled : Attributes := ⟨[("id", "r"), ("width", "5"), ("height", "4"), ("transform", "scale(2)")]⟩

/-- The start tag of a rectangle that is to be displayed. -/
def shown : MarkupEvent := .startTag "rect" ⟨[("width", "5"), ("height", "4"), ("display", "inline")]⟩

/-- What is left of a document with the rectangle in a group that is not displayed. -/
def concealed : List MarkupEvent :=
  [.startTag "g" ⟨[("display", "none")]⟩, shown, .endTag "rect", .endTag "g", .endTag "svg"]

/-- A letter in a span. -/
def spanned : List MarkupEvent := [.startTag "tspan" ⟨[]⟩, .text "A", .endTag "tspan"]

end Exact

end SvgPage
