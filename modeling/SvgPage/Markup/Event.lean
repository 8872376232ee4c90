import SvgPage.Table

namespace SvgPage

/-- What a document holds, in order. -/
inductive MarkupEvent where
  | startTag (name : String) (attributes : Attributes)
  | endTag (name : String)
  | text (text : String)

/-- What reading a document yields: everything up to its end, or up to the first place at which it is not
    well-formed, and the line of that place. -/
structure Reading where
  events : List MarkupEvent
  errorLine : Option Nat

end SvgPage
