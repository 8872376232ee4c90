import SvgPage.Content.LineStyle
import SvgPage.Geometry.Box
import SvgPage.Style.Basic

namespace SvgPage

variable {α : Type} [Scalar α]

/-- The length that percentages refer to which belong to neither axis. -/
def Size.diagonal (size : Size α) : α :=
  Scalar.sqrt ((size.width * size.width + size.height * size.height) / 2)

namespace Style

/-- The lengths of a dash pattern, unless one of them is no length or negative. -/
def dashes (value : String) (reference : α) (context : Css.LengthContext α) : List α :=
  if value == "none" then
    []
  else
    let words := (Text.splitList value).filter fun word => !word.isEmpty
    let lengths := words.mapM fun word =>
      (Css.Length.read? word reference context).filter fun length => 0 ≤ length
    lengths.getD []

/-- The lengths of dashes and gaps in turn. A pattern of odd length is repeated, and one without any
    extent means a solid line. -/
def dashArray (value : String) (reference : α) (context : Css.LengthContext α) : List α :=
  let lengths := dashes value reference context
  if lengths.any fun length => 0 < length then
    if lengths.length % 2 == 1 then lengths ++ lengths else lengths
  else
    []

/-- How the element's lines are drawn in a user space of the given size. -/
def lineStyle (style : Style α) (viewport : Size α) (context : Css.LengthContext α) : LineStyle α :=
  let reference := viewport.diagonal
  let dashArray := dashArray (style.text .strokeDasharray) reference context
  { width := (Css.Length.read? (style.text .strokeWidth) reference context).getD 1
    cap := .read (style.text .strokeLinecap)
    join := .read (style.text .strokeLinejoin)
    miterLimit := max (style.number .strokeMiterlimit) 1
    dashArray
    dashPhase := if dashArray.isEmpty then 0 else style.number .strokeDashoffset }

end Style

end SvgPage
