import SvgPage.Css.Reserved
import SvgPage.Numeric.Numeral
import SvgPage.Text.Case

namespace SvgPage.Css

/-- What lengths refer to: the user units in an inch, and the font size in user units. -/
structure LengthContext (α : Type) where
  dpi : α
  fontSize : α

inductive LengthUnit where
  | user
  | percent
  | point
  | pica
  | inch
  | millimetre
  | centimetre
  | em
  | ex
deriving DecidableEq, Repr

/-- The unit with the given name. Pixels are user units, and so are numbers without a unit. -/
def LengthUnit.ofName? : String → Option LengthUnit
  | "" | "px" => some user
  | "%" => some percent
  | "pt" => some point
  | "pc" => some pica
  | "in" => some inch
  | "mm" => some millimetre
  | "cm" => some centimetre
  | "em" => some em
  | "ex" => some ex
  | _ => none

namespace Length

/-- Reads a number and what is written in place of its unit, lower-cased: ASCII letters and percent
    signs. Blanks may surround both. -/
def scan? (s : String) : Option (Decimal × String) := do
  let (amount, rest) ← Decimal.scan (s.toList.dropWhile Text.isBlank)
  let rest := rest.dropWhile Text.isBlank
  let isUnit (c : Char) := c.isAlpha || c == '%'
  guard ((rest.dropWhile isUnit).all Text.isBlank)
  return (amount, Text.lowerAscii (String.ofList (rest.takeWhile isUnit)))

variable {α : Type} [Scalar α]

/-- A number of units in user units. Percentages refer to `reference`. -/
def convert (amount reference : α) (context : LengthContext α) : LengthUnit → α
  | .user => amount
  | .percent => amount / 100 * reference
  | .point => amount * context.dpi / 72
  | .pica => amount * context.dpi / 6
  | .inch => amount * context.dpi
  | .millimetre => amount * context.dpi / 25.4
  | .centimetre => amount * context.dpi / 2.54
  | .em => amount * context.fontSize
  | .ex => amount * context.fontSize / 2

/-- The length in user units, unless the text is no length. -/
def read? (s : String) (reference : α) (context : LengthContext α) : Option α := do
  let (amount, unitName) ← scan? s
  let unit ← LengthUnit.ofName? unitName
  return convert amount.value reference context unit

end Length

/-- The numbers in a list separated by blanks and commas, without the entries that are none. -/
def readNumberList {α : Type} [Scalar α] (s : String) : List α :=
  (Text.splitList s).filterMap readNumber?

namespace FontSize

variable {α : Type} [Scalar α]

/-- The sizes of the absolute keywords at 96 user units to the inch. -/
def keyword? : String → Option Nat
  | "xx-small" => some 9
  | "x-small" => some 10
  | "small" => some 13
  | "medium" => some 16
  | "large" => some 18
  | "x-large" => some 24
  | "xx-large" => some 32
  | _ => none

/-- Whether a lower-case word is a font size. -/
def isKeyword (word : String) : Bool :=
  (keyword? word).isSome || word == "smaller" || word == "larger"

/-- The font size a value denotes where `context` has the size it is relative to. What is no size
    leaves that size as it is. The size under a reserved word is not a number. -/
def read (value : String) (context : LengthContext α) : α :=
  let word := Text.lower (Text.trim value)
  match keyword? word with
  | some size => Scalar.ofNat size * context.dpi / 96
  | none =>
    if (Reserved.ofWord? word).isSome then 0 / 0
    else if value == "smaller" then context.fontSize / 1.2
    else if value == "larger" then context.fontSize * 1.2
    else (Length.read? value context.fontSize context).getD context.fontSize

end FontSize

end SvgPage.Css
