import SvgPage.Table
import SvgPage.Text.Blank
import SvgPage.Text.Case

namespace SvgPage.Css

/-- Where a scan of declarations stands: inside a quotation or not, and in how many parentheses. -/
structure DeclarationScan where
  quote : Option Char := none
  depth : Nat := 0
deriving DecidableEq

namespace DeclarationScan

/-- Whether a semicolon ends a declaration here. -/
def isOutside (scan : DeclarationScan) : Bool := scan.quote.isNone && scan.depth == 0

/-- A quotation ends with the quote that began it. Parentheses count outside quotations only, and one
    that closes nothing is passed over. -/
def advance (scan : DeclarationScan) (c : Char) : DeclarationScan :=
  match scan.quote with
  | some quote => if c == quote then { scan with quote := none } else scan
  | none =>
    if c == '"' || c == '\'' then { scan with quote := some c }
    else if c == '(' then { scan with depth := scan.depth + 1 }
    else if c == ')' then { scan with depth := scan.depth - 1 }
    else scan

/-- The pieces between the semicolons that stand outside quotations and parentheses. -/
def split (scan : DeclarationScan) : List Char → List (List Char)
  | [] => [[]]
  | c :: rest =>
    if c == ';' && scan.isOutside then
      [] :: scan.split rest
    else
      match (scan.advance c).split rest with
      | piece :: pieces => (c :: piece) :: pieces
      | [] => [[c]]

end DeclarationScan

/-- The value without a mark of importance at its end. -/
def dropImportant (value : List Char) : List Char :=
  let trimmed := Text.dropTail Text.isBlank value
  let mark := "!important".toList
  if mark.isSuffixOf (trimmed.map Char.toLower) then
    trimmed.take (trimmed.length - mark.length)
  else
    value

/-- The lower-cased name before the first colon and the value after it, unless one is missing. -/
def readDeclaration? (declaration : List Char) : Option (String × String) :=
  match declaration.dropWhile (· != ':') with
  | [] => none
  | _ :: rest =>
    let name := Text.lower (Text.trim (String.ofList (declaration.takeWhile (· != ':'))))
    let value := Text.trim (String.ofList (dropImportant rest))
    if name.isEmpty || value.isEmpty then none else some (name, value)

/-- The declarations of an inline style. Of several for one property the last one counts. -/
def parseDeclarations (style : String) : Table String :=
  ({} : Table String).setAll
    ((({} : DeclarationScan).split style.toList).filterMap readDeclaration?)

end SvgPage.Css
