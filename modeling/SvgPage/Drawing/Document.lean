import SvgPage.Drawing.Ledger
import SvgPage.Path.Segment
import SvgPage.Style.Basic

namespace SvgPage

/-- How deep documents and uses may nest. There is no limit without `levels`. -/
structure NestingLimit where
  levels : Option Nat
  text : String

/-- The limit that a number sets. -/
def NestingLimit.ofNumber {α : Type} [Scalar α] (limit : α) : NestingLimit where
  levels :=
    if Scalar.isFinite limit then some (if 0 < limit then Scalar.ceilNat limit else 0)
    else if limit < 0 then some 0
    else none
  text := Scalar.toText limit

/-- Whether as many levels are open as may nest. -/
def NestingLimit.isReached (limit : NestingLimit) (levels : Nat) : Bool := limit.levels.any (· ≤ levels)

/-- How deep documents nest where there is no limit. -/
def unlimitedDepth : Nat := 10000

def NestingLimit.documentLevels (limit : NestingLimit) : Nat := limit.levels.getD unlimitedDepth

/-- How documents are drawn. `load` finds the bytes behind a reference. -/
structure Options (α : Type) where
  dpi : α
  minLength : α
  nesting : NestingLimit
  load : String → Option (List UInt8)

/-- Where a document is drawn: a map from the drawing's corner to the page, and the size of the drawing. A
    width or height of zero is left to the document. -/
structure Placement (α : Type) where
  matrix : Matrix α
  size : Size α

/-- What stays the same while a document is drawn. `depth` counts the documents around it. -/
structure Setting (α : Type) where
  options : Options α
  pageHeight : α
  depth : Nat
  placement : Placement α

/-- What an element hands down to its children: its style, the size that percentages refer to, the map from
    its user space to the page, the opacity and blend mode in force, and whether nothing is painted. -/
structure Frame (α : Type) where
  style : Style α
  viewport : Size α
  ctm : Matrix α
  opacity : α
  blendMode : BlendMode
  hidden : Bool

/-- A text that is being laid out: how many elements are open around it, which tells it from other texts,
    where its next run begins, the characters of that run, and whether blanks at the start of the run are
    dropped. -/
structure TextState (α : Type) where
  depth : Nat
  x : α
  y : α
  pending : String
  collapse : Bool

/-- A recorded tag, with the characters before it. -/
inductive DefinitionEvent where
  | startTag (name : String) (attributes : Attributes) (leadingText : String)
  | endTag (name : String) (leadingText : String)
deriving DecidableEq

/-- What an id stands for: an element that is still open, or all tags of an element. -/
inductive Definition where
  | pending
  | complete (events : List DefinitionEvent)
deriving DecidableEq

/-- The tags of an open element with an id. It is superseded once another element has taken the id. -/
structure Recording where
  id : String
  events : Array DefinitionEvent
  superseded : Bool

/-- A shape of a clip path. `matrix` maps it to the user space of the elements that are clipped. -/
structure ClipShape (α : Type) where
  path : Path α
  matrix : Matrix α
  evenOdd : Bool

/-- A clip path whose shapes are being collected, and the map from the user space reached in it. -/
structure ClipCapture (α : Type) where
  id : String
  matrix : Matrix α

/-- What the end tag of an element has to undo. -/
inductive Closing (α : Type) where
  | nothing
  /-- A saved graphics state and the frame before it. -/
  | scope (previous : Frame α)
  | nestedSvg (previous : Frame α)
  | text (previous : Frame α) (outer : Option (TextState α))
  | span (previous : Frame α)
  | gradient
  | clipPath
  /-- The map that holds again after an element of a clip path. -/
  | clipElement (matrix : Matrix α)
  | definitions

/-- An element whose end tag is still to come: what to undo there, whether its tags are recorded, and
    whether a recording ends with it. -/
structure OpenElement (α : Type) where
  closing : Closing α
  recorded : Bool
  defines : Bool

/-- A document as far as it is drawn. Stacks have their innermost entry first. -/
structure Document (α : Type) where
  output : Array (Operator α) := #[]
  frame : Frame α
  rootSeen : Bool := false
  openElements : List (OpenElement α) := []
  /-- How many open elements hold definitions; nothing is drawn inside them. -/
  definitionsDepth : Nat := 0
  svgDepth : Nat := 0
  gradients : Table (Gradient α) := {}
  openGradient : Option String := none
  clipPaths : Table (List (ClipShape α)) := {}
  clip : Option (ClipCapture α) := none
  definitions : Table Definition := {}
  recordings : List Recording := []
  /-- Characters since the last recorded tag. -/
  recordedText : String := ""
  /-- The ids of the elements that uses are being expanded to. -/
  expanding : List String := []
  /-- How many uses are being expanded; nothing is recorded meanwhile. -/
  replayDepth : Nat := 0
  text : Option (TextState α) := none
  /-- How many ids have been made up for each kind of element. -/
  generated : Table Nat := {}

/-- A finished document with the documents embedded in it. -/
inductive DocumentTree (α : Type) where
  | node (setting : Setting α) (document : Document α) (embedded : List (DocumentTree α))

namespace Document

variable {α : Type}

/-- A document before its first tag. -/
def initial [Scalar α] (setting : Setting α) : Document α where
  frame :=
    { style := .ofResolution setting.options.dpi
      viewport := setting.placement.size
      ctm := setting.placement.matrix
      opacity := 1
      blendMode := .normal
      hidden := false }

def write (document : Document α) (operators : List (Operator α)) : Document α :=
  { document with output := document.output ++ operators }

/-- Whether elements are painted now, rather than kept as definitions or clip shapes. -/
def isDrawing (document : Document α) : Bool :=
  document.definitionsDepth == 0 && document.clip.isNone

/-- Makes a frame current. Whatever is inside a hidden frame is hidden. -/
def enter (document : Document α) (frame : Frame α) : Document α :=
  { document with
    frame := { frame with hidden := document.frame.hidden || frame.style.text .display == "none" } }

/-- The next id that starts with `stem`. -/
def freshId (generated : Table Nat) (stem : String) : String × Table Nat :=
  let count := (generated.get? stem).getD 1
  (stem ++ toString count, generated.set stem (count + 1))

end Document

namespace DocumentTree

variable {α : Type}

mutual

/-- The operators of a document, followed by those of the documents in it. -/
def operators : DocumentTree α → List (Operator α)
  | node _ document embedded => document.output.toList ++ operatorsOfAll embedded

def operatorsOfAll : List (DocumentTree α) → List (Operator α)
  | [] => []
  | tree :: rest => tree.operators ++ operatorsOfAll rest

end

end DocumentTree

end SvgPage
