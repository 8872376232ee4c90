import SvgPage.Css.Length
import SvgPage.Css.Value

namespace SvgPage.Css

/-- The parts of a `font` value that are given: its size, and what stands before and after it. -/
structure FontShorthand where
  style : Option String := none
  variant : Option String := none
  weight : Option String := none
  size : String := ""
  family : Option String := none

namespace FontShorthand

def isStyle (word : String) : Bool := word == "italic" || word == "oblique"

def isWeight (word : String) : Bool :=
  ["bold", "bolder", "lighter", "100", "200", "300", "400", "500", "600", "700", "800", "900"].contains word

/-- Words that are allowed before the size and set nothing. -/
def isNeutral (word : String) : Bool :=
  ["normal", "ultra-condensed", "extra-condensed", "condensed", "semi-condensed", "semi-expanded",
    "expanded", "extra-expanded", "ultra-expanded"].contains word

def isSize (text word : String) : Bool := (Length.scan? text).isSome || FontSize.isKeyword word

/-- The family after the size and the line height. -/
def readFamily (components : List Component) : Option String :=
  let rest := match components with
    | .divider '/' _ _ :: rest => rest.drop 1
    | rest => rest
  let family := Text.trim (Component.textOfAll rest)
  if family.isEmpty then none else some family

/-- Reads the words before the size, then the size and the family. There is no value without a size. -/
def readFrom (font : FontShorthand) : List Component → Option FontShorthand
  | .space _ :: rest => readFrom font rest
  | .word text :: rest =>
    let word := Text.lower text
    if isNeutral word then readFrom font rest
    else if isStyle word then readFrom { font with style := some word } rest
    else if word == "small-caps" then readFrom { font with variant := some word } rest
    else if isWeight word then readFrom { font with weight := some word } rest
    else if isSize text word then some { font with size := text, family := readFamily rest }
    else none
  | _ => none

/-- Splits a `font` value into its parts: style, variant, weight and stretch in any order, then the
    size, an optional line height after a slash, and the family. -/
def parse? (value : String) : Option FontShorthand := readFrom {} (parseValue (Text.trim value))

end FontShorthand

end SvgPage.Css
