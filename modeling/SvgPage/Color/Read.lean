import SvgPage.Color.Device
import SvgPage.Color.Named
import SvgPage.Css.Value
import SvgPage.Numeric.Numeral
import SvgPage.Text.Case
import SvgPage.Text.Percent

namespace SvgPage

/-- What a color value denotes: a color, and how far it covers what lies under it. -/
structure ResolvedColor (α : Type) where
  color : DeviceColor α
  alpha : α
deriving DecidableEq, Repr

namespace ResolvedColor

variable {α : Type} [Scalar α]

/-- A color of light, with its components moved into their range. -/
def ofRgb (red green blue alpha : α) : ResolvedColor α :=
  ⟨.rgb (Scalar.clamp red 0 1) (Scalar.clamp green 0 1) (Scalar.clamp blue 0 1),
    Scalar.clamp alpha 0 1⟩

/-- Two hexadecimal digits as a fraction of 255. -/
def channel (high low : Nat) : α := Scalar.ofNat (16 * high + low) / 255

def ofDigits? : List Nat → Option (ResolvedColor α)
  | [r, g, b] => some (ofRgb (channel r r) (channel g g) (channel b b) 1)
  | [r, g, b, a] => some (ofRgb (channel r r) (channel g g) (channel b b) (channel a a))
  | [r, r', g, g', b, b'] => some (ofRgb (channel r r') (channel g g') (channel b b') 1)
  | [r, r', g, g', b, b', a, a'] =>
    some (ofRgb (channel r r') (channel g g') (channel b b') (channel a a'))
  | _ => none

/-- A color in hexadecimal digits, one or two for each channel, with or without alpha. -/
def ofHex? (digits : List Char) : Option (ResolvedColor α) := digits.mapM hexDigit? >>= ofDigits?

def ofName? (name : String) : Option (ResolvedColor α) :=
  (namedColors.lookup name).map fun code =>
    ofRgb (Scalar.ofNat (code / 0x10000) / 255) (Scalar.ofNat (code / 0x100 % 0x100) / 255)
      (Scalar.ofNat (code % 0x100) / 255) 1

/-- An argument of a color function. Percentages are fractions of one, other numbers of `full`, and
    what is no number is zero. -/
def readComponent (word : String) (full : α) : α :=
  match readNumber? word with
  | none => 0
  | some number => if (Text.trim word).toList.getLast? == some '%' then number / 100 else number / full

/-- The color that a function of the given name makes of the words among its arguments. -/
def ofFunction? (name : String) (words : List String) : Option (ResolvedColor α) :=
  if name == "rgb" || name == "rgba" then
    let make (red green blue : String) (alpha : α) : Option (ResolvedColor α) :=
      some (ofRgb (readComponent red 255) (readComponent green 255) (readComponent blue 255) alpha)
    match words with
    | [red, green, blue] => make red green blue 1
    | red :: green :: blue :: alpha :: _ => make red green blue (readComponent alpha 1)
    | _ => none
  else if name == "cmyk" then
    let component (word : String) : α := Scalar.clamp (readComponent word 100) 0 1
    match words with
    | cyan :: magenta :: yellow :: black :: _ =>
      some ⟨.cmyk (component cyan) (component magenta) (component yellow) (component black), 1⟩
    | _ => none
  else
    none

/-- The color a value denotes. `none` and values that are no color denote none. -/
def read? (token : String) : Option (ResolvedColor α) :=
  let value := Text.lower (Text.trim token)
  if value.isEmpty || value == "none" then none
  else if value == "transparent" then some (ofRgb 0 0 0 0)
  else
    match value.toList with
    | '#' :: digits => ofHex? digits
    | cs =>
      if cs.contains '(' then
        match Css.Component.firstFunction? (Css.parseValue value) with
        | some (name, arguments) => ofFunction? (Text.lower name) (Css.Component.words arguments)
        | none => none
      else
        ofName? value

end ResolvedColor

end SvgPage
