import SvgPage.Css.Length
import SvgPage.Css.Value

namespace SvgPage.Css

/-- How far the sides of a clip rectangle lie inside the box it belongs to. -/
structure ClipInsets (α : Type) where
  top : α
  right : α
  bottom : α
  left : α

variable {α : Type} [Scalar α]

/-- An inset of `auto` is zero, and so is one that is no length. -/
def readInset (word : String) (context : LengthContext α) : α :=
  if word == "auto" then 0 else (Length.read? word 0 context).getD 0

/-- The insets of a value such as `rect(1px, 2px, 3px, 4px)`; those that are not written are zero. -/
def ClipInsets.read? (value : String) (context : LengthContext α) : Option (ClipInsets α) :=
  match Component.firstFunction? (parseValue value) with
  | some ("rect", arguments) =>
    let insets := (Component.words arguments).map (readInset · context)
    let inset (i : Nat) : α := insets[i]?.getD 0
    some ⟨inset 0, inset 1, inset 2, inset 3⟩
  | _ => none

end SvgPage.Css
