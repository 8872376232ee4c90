import SvgPage.Numeric.Scalar

namespace SvgPage

/-- Why a document cannot be drawn, or a drawing not be found. -/
inductive Failure (α : Type) where
  | unreadableSource
  | emptySource
  /-- The root of the document is another element than `svg`. -/
  | foreignRoot (name : String)
  /-- The drawing has no area. -/
  | noArea (width height : α)
  /-- The document is not well-formed at a line. -/
  | malformed (line : Nat)
  | unexpectedEnd (name : String)
  | unknownHandle (handle : Int)
deriving DecidableEq, Repr

namespace Failure

variable {α : Type}

/-- The message about a handle that no drawing has, as the handle is written. -/
def unknownHandleMessage (handle : String) : String :=
  "No converted SVG document is registered under handle " ++ handle

def message [Scalar α] : Failure α → String
  | unreadableSource => "The SVG source could not be read"
  | emptySource => "The SVG source is empty"
  | foreignRoot name => "Expected an <svg> root element, got <" ++ name ++ ">"
  | noArea width height =>
    "The SVG drawing size resolved to " ++ Scalar.toText width ++ "x" ++ Scalar.toText height
  | malformed line => "Malformed SVG document at line " ++ toString line
  | unexpectedEnd name => "Unexpected end tag </" ++ name ++ ">"
  | unknownHandle handle => unknownHandleMessage (toString handle)

end Failure

end SvgPage
