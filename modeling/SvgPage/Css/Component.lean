namespace SvgPage.Css

/-- A component of a property value. Blanks that belong to a divider or stand inside the parentheses
    of a function are kept with it, so that the components make up the whole text. `closed` tells
    whether the end of a string, comment or function is written. -/
inductive Component where
  | word (text : String)
  | space (text : String)
  | quoted (quote : Char) (text : String) (closed : Bool)
  | comment (text : String) (closed : Bool)
  | divider (mark : Char) (before after : String)
  | unicodeRange (text : String)
  | function (name before : String) (arguments : List Component) (after : String) (closed : Bool)
deriving Repr, Inhabited

namespace Component

mutual

/-- The text of a component as a property value has it. -/
def text : Component → String
  | word text | space text | unicodeRange text => text
  | quoted quote text closed => quote.toString ++ text ++ if closed then quote.toString else ""
  | comment text closed => "/*" ++ text ++ if closed then "*/" else ""
  | divider mark before after => before ++ mark.toString ++ after
  | function name before arguments after closed =>
    name ++ "(" ++ before ++ textOfAll arguments ++ after ++ if closed then ")" else ""

def textOfAll : List Component → String
  | [] => ""
  | component :: rest => component.text ++ textOfAll rest

end

/-- What stands in a component, without its quotes or marks. -/
def content : Component → String
  | word text | space text | unicodeRange text | quoted _ text _ | comment text _ => text
  | divider mark _ _ => mark.toString
  | function name .. => name

def isFunction : Component → Bool
  | function .. => true
  | _ => false

/-- The name and the arguments of the first function among the components. -/
def firstFunction? : List Component → Option (String × List Component)
  | [] => none
  | function name _ arguments _ _ :: _ => some (name, arguments)
  | _ :: rest => firstFunction? rest

/-- The words among the components. -/
def words (components : List Component) : List String :=
  components.filterMap fun component =>
    match component with
    | word text => some text
    | _ => none

end Component

end SvgPage.Css
