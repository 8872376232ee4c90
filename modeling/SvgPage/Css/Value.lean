import SvgPage.Css.Component
import SvgPage.Css.Lexeme

namespace SvgPage.Css

/-- A function whose end has not been read: its name, the blanks after its parenthesis, and the
    components before it, last one first. -/
structure OpenFunction where
  name : List Char
  before : List Char
  siblings : List Component

/-- Whether a word is a range of code points, `u+` and digits, wild cards and hyphens. -/
def isUnicodeRange : List Char → Bool
  | u :: '+' :: range =>
    (u == 'u' || u == 'U') && !range.isEmpty && range.all fun c =>
      c.isDigit || ('a' ≤ c.toLower && c.toLower ≤ 'f') || c == '?' || c == '-'
  | _ => false

def wordComponent (text : List Char) : Component :=
  if isUnicodeRange text then .unicodeRange (String.ofList text) else .word (String.ofList text)

/-- The arguments of a `url` with an unquoted address: the address, if there is one. Blanks before an
    end that is not written are kept as a component. -/
def addressComponent (before text after : List Char) (closed : Bool) : Component :=
  let address := if text.isEmpty then [] else [Component.word (String.ofList text)]
  let after := String.ofList after
  if !closed && !after.isEmpty then
    .function "url" (String.ofList before) (address ++ [.space after]) "" closed
  else
    .function "url" (String.ofList before) address after closed

/-- Where blanks belong, judged by what stands before them and after them. -/
inductive BlankPlace where
  | afterDivider (mark : Char) (before : String) (siblings : List Component)
  | beforeNext
  | between

/-- Blanks before the end of a function belong to it. Those after a divider belong to the divider, and
    those before one, too, unless they stand before a slash that starts a comment or directly in
    `calc`. -/
def blankPlace (inside : Option (List Char)) (siblings : List Component) (rest : List Char) : BlankPlace :=
  match rest, siblings with
  | ')' :: _, _ =>
    if inside.isSome then .beforeNext
    else match siblings with
      | .divider mark before _ :: others => .afterDivider mark before others
      | _ => .between
  | _, .divider mark before _ :: others => .afterDivider mark before others
  | ',' :: _, _ | ':' :: _, _ => .beforeNext
  | '/' :: rest, _ =>
    if rest.head? != some '*' && inside != some "calc".toList then .beforeNext else .between
  | _, _ => .between

/-- Ends all open functions at the end of the text. -/
def closeAll : List OpenFunction → List Component → List Component
  | [], siblings => siblings.reverse
  | function :: outer, siblings =>
    closeAll outer (.function (String.ofList function.name) (String.ofList function.before)
      siblings.reverse "" false :: function.siblings)

/-- Reads components. `siblings` are those read since the innermost open function began, last one
    first; `blanks` are the ones that belong to what comes next. -/
def readComponents (functions : List OpenFunction) (siblings : List Component) (blanks : String) :
    List Char → List Component
  | [] => closeAll functions siblings
  | c :: rest =>
    let inside := functions.head?.map OpenFunction.name
    let scanned := Lexeme.scan inside c rest
    let keep (component : Component) := readComponents functions (component :: siblings) "" scanned.2
    match scanned.1 with
    | .blanks text =>
      let text := String.ofList text
      match blankPlace inside siblings scanned.2 with
      | .afterDivider mark before others =>
        readComponents functions (.divider mark before text :: others) "" scanned.2
      | .beforeNext => readComponents functions siblings text scanned.2
      | .between => keep (.space text)
    | .quoted quote text closed => keep (.quoted quote (String.ofList text) closed)
    | .comment text closed => keep (.comment (String.ofList text) closed)
    | .mark mark => keep (.divider mark blanks "")
    | .word text => keep (wordComponent text)
    | .address before text after closed => keep (addressComponent before text after closed)
    | .opening name before => readComponents (⟨name, before, siblings⟩ :: functions) [] "" scanned.2
    | .closing =>
      match functions with
      | [] => readComponents [] siblings "" scanned.2
      | function :: outer =>
        readComponents outer (.function (String.ofList function.name) (String.ofList function.before)
          siblings.reverse blanks true :: function.siblings) "" scanned.2
termination_by cs => cs.length
decreasing_by all_goals exact Nat.lt_succ_of_le (Lexeme.length_scan_le ..)

/-- The components of a property value. -/
def parseValue (s : String) : List Component := readComponents [] [] "" s.toList

end SvgPage.Css
