import SvgPage.Geometry.Box
import SvgPage.Numeric.Numeral

namespace SvgPage

/-- Which edge or middle of a viewport its content keeps to along one axis. -/
inductive Alignment where
  | min
  | mid
  | max
deriving DecidableEq, Repr

/-- Whether content is scaled until it just fits into the viewport or until it covers it. -/
inductive FitScope where
  | meet
  | slice
deriving DecidableEq, Repr

/-- How content of another shape is fitted into a viewport: stretched, or scaled by one factor and
    aligned. -/
inductive AspectRatio where
  | stretch
  | keep (x y : Alignment) (scope : FitScope)
deriving DecidableEq, Repr

namespace AspectRatio

def default : AspectRatio := keep .mid .mid .meet

def alignments? : String → Option (Alignment × Alignment)
  | "xMinYMin" => some (.min, .min)
  | "xMidYMin" => some (.mid, .min)
  | "xMaxYMin" => some (.max, .min)
  | "xMinYMid" => some (.min, .mid)
  | "xMidYMid" => some (.mid, .mid)
  | "xMaxYMid" => some (.max, .mid)
  | "xMinYMax" => some (.min, .max)
  | "xMidYMax" => some (.mid, .max)
  | "xMaxYMax" => some (.max, .max)
  | _ => none

/-- Reads an alignment and a scope. The word `defer` does not count, and an unknown alignment is read as
    the default value. -/
def read (value : String) : AspectRatio :=
  let words := (Text.splitBlanks (Text.trim value)).filter (· != "defer")
  match words with
  | [] => default
  | align :: rest =>
    if align == "none" then
      stretch
    else
      match alignments? align with
      | none => default
      | some (x, y) => keep x y (if rest.head? == some "slice" then .slice else .meet)

end AspectRatio

variable {α : Type} [Scalar α]

/-- The box a `viewBox` value denotes: four numbers, with a positive size. -/
def readViewBox? (value : String) : Option (Box α) :=
  match (Text.splitList (Text.trim value)).mapM readNumber? with
  | some [x, y, width, height] => if width ≤ 0 || height ≤ 0 then none else some ⟨x, y, width, height⟩
  | _ => none

/-- How the content of a box is scaled and moved into a viewport. -/
structure ViewportFit (α : Type) where
  scaleX : α
  scaleY : α
  offsetX : α
  offsetY : α
deriving DecidableEq, Repr

namespace ViewportFit

/-- Where content begins that leaves some room along an axis. -/
def offset (room : α) : Alignment → α
  | .min => 0
  | .mid => room / 2
  | .max => room

/-- Fits a box into a viewport. -/
def ofBox (viewport : Size α) (box : Box α) : AspectRatio → ViewportFit α
  | .stretch => ⟨viewport.width / box.width, viewport.height / box.height, 0, 0⟩
  | .keep x y scope =>
    let scaleX := viewport.width / box.width
    let scaleY := viewport.height / box.height
    let scale := match scope with
      | .meet => min scaleX scaleY
      | .slice => max scaleX scaleY
    { scaleX := scale
      scaleY := scale
      offsetX := offset (viewport.width - box.width * scale) x
      offsetY := offset (viewport.height - box.height * scale) y }

/-- Maps the coordinates of the box to those of the viewport. -/
def matrix (fit : ViewportFit α) (box : Box α) : Matrix α :=
  ⟨fit.scaleX, 0, 0, fit.scaleY, fit.offsetX - box.x * fit.scaleX, fit.offsetY - box.y * fit.scaleY⟩

end ViewportFit

end SvgPage
