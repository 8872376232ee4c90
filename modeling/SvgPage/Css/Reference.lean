import SvgPage.Css.Escape
import SvgPage.Css.Value

namespace SvgPage.Css

/-- A reference to an element of the document, and the value to use in case it leads nowhere. -/
structure UrlReference where
  id : String
  fallback : Option String
deriving DecidableEq, Repr

/-- The first function among the components, and all components but that one. -/
def splitAtFunction : List Component → Option (String × List Component) × List Component
  | [] => (none, [])
  | .function name _ arguments _ _ :: rest => (some (name, arguments), rest)
  | component :: rest =>
    let (found, others) := splitAtFunction rest
    (found, component :: others)

/-- The reference in a value such as `url(#id) red`: the first function of the value has to be a `url`
    with a fragment. -/
def UrlReference.read? (value : String) : Option UrlReference := do
  guard (Text.occursIn "url(".toList value.toList)
  let (function, others) := splitAtFunction (parseValue value)
  let (name, arguments) ← function
  guard (name == "url")
  let argument ← arguments.head?
  let target := unescape (Text.trim argument.content)
  match target.toList.dropWhile (· != '#') with
  | [] => none
  | _ :: id =>
    let fallback := Text.trim (Component.textOfAll others)
    return ⟨String.ofList id, if fallback.isEmpty then none else some fallback⟩

/-- The id in a link to an element of the document, such as `#id`. -/
def readLink? (href : String) : Option String :=
  match (Text.trim href).toList with
  | '#' :: c :: rest => some (String.ofList (c :: rest))
  | _ => none

end SvgPage.Css
