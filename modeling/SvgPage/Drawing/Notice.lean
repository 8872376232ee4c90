import SvgPage.Text.Units
import SvgPage.Numeric.Scalar

namespace SvgPage

inductive NoticeLevel where
  | debug
  | warn
deriving DecidableEq, Repr

def NoticeLevel.name : NoticeLevel → String
  | debug => "debug"
  | warn => "warn"

/-- What is worth telling about a drawing: how it proceeds, and what it leaves out. -/
inductive Notice (α : Type) where
  | drawing (size : α × α) (depth : Nat)
  | nested (depth : Nat)
  | converted (handle children : Nat)
  | unknownColor (token : String)
  | unknownTextColor (token : String)
  | unknownGradient (id : String)
  | unknownClipPath (id : String)
  | unresolvedUse (reference : Option String)
  | cyclicUse (id : String)
  | deepUse (id limit : String)
  | deepDocument (limit : String)
  | missingDocument (reference : String)
  | missingImage (reference : String)
deriving DecidableEq, Repr

namespace Notice

variable {α : Type}

/-- What is left out is a warning. -/
def level : Notice α → NoticeLevel
  | drawing .. | nested _ | converted .. => .debug
  | _ => .warn

/-- The start of a reference, which can hold a whole document. -/
def shorten (reference : String) : String := String.ofList (Text.takeUnits 64 reference.toList)

def message [Scalar α] : Notice α → String
  | drawing (width, height) depth =>
    "Drawing SVG document of " ++ Scalar.toText width ++ "x" ++ Scalar.toText height ++
      " at nesting depth " ++ toString depth
  | nested depth => "Entering nested <svg> at depth " ++ toString depth
  | converted handle children =>
    "Converted SVG document into handle " ++ toString handle ++ " with " ++ toString children ++
      " embedded documents"
  | unknownColor token => "Ignoring unknown color " ++ token
  | unknownTextColor token => "Ignoring text with unknown color " ++ token
  | unknownGradient id => "Ignoring paint with unknown gradient #" ++ id
  | unknownClipPath id => "Ignoring unknown clip path #" ++ id
  | unresolvedUse reference =>
    "Ignoring <use> with unresolvable reference " ++ reference.getD "(none)"
  | cyclicUse id => "Ignoring <use> of #" ++ id ++ ": the reference is cyclic"
  | deepUse id limit =>
    "Ignoring <use> of #" ++ id ++ ": nested deeper than " ++ limit ++ " levels"
  | deepDocument limit => "Ignoring SVG image nested deeper than " ++ limit ++ " levels"
  | missingDocument reference => "Ignoring SVG image that could not be loaded: " ++ shorten reference
  | missingImage reference => "Ignoring image that could not be loaded: " ++ shorten reference

end Notice

end SvgPage
