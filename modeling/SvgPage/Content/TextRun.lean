import SvgPage.Content.Operator
import SvgPage.Text.Units

namespace SvgPage

/-- Which point of a text lies at its position. -/
inductive TextAnchor where
  | start
  | middle
  | stop
deriving DecidableEq, Repr

namespace TextAnchor

def name : TextAnchor → String
  | start => "start"
  | middle => "middle"
  | stop => "end"

/-- The anchor a style value names. Text starts at its position if it names none. -/
def read : String → TextAnchor
  | "middle" => middle
  | "end" => stop
  | _ => start

end TextAnchor

inductive TextDirection where
  | leftToRight
  | rightToLeft
deriving DecidableEq, Repr

namespace TextDirection

def name : TextDirection → String
  | leftToRight => "ltr"
  | rightToLeft => "rtl"

def read (value : String) : TextDirection := if value == "rtl" then rightToLeft else leftToRight

end TextDirection

structure Font (α : Type) where
  family : String
  size : α
  weight : String
  style : String
deriving DecidableEq, Repr

/-- A run of text in one font, at a position of the page. -/
structure TextRun (α : Type) where
  text : String
  x : α
  y : α
  anchor : TextAnchor
  direction : TextDirection
  font : Font α
deriving DecidableEq, Repr

namespace TextRun

variable {α : Type} [Scalar α]

/-- The advance of the run: half the font size for each unit of its text. -/
def width (run : TextRun α) : α := Scalar.ofNat (Text.unitLength run.text) * run.font.size * 0.5

/-- How far the left edge of the run lies to the left of its position. Text that runs to the left has its
    start at the right edge. -/
def shift (run : TextRun α) : α :=
  let anchorShift := match run.anchor with
    | .start => 0
    | .middle => run.width / 2
    | .stop => run.width
  match run.direction with
  | .leftToRight => anchorShift
  | .rightToLeft => run.width - anchorShift

/-- The operators that show the run. -/
def operators (run : TextRun α) : List (Operator α) :=
  [.beginText, .font run.font.size, .textPosition (run.x - run.shift) run.y, .showText run.text, .endText]

end TextRun

end SvgPage
