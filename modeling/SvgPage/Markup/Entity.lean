import SvgPage.Markup.Character
import SvgPage.Table
import SvgPage.Text.Blank
import SvgPage.Text.Percent

namespace SvgPage.Markup.Entity

/-- The entities every document has. -/
def predefined : Table String :=
  Table.ofList [("amp", "&"), ("lt", "<"), ("gt", ">"), ("quot", "\""), ("apos", "'")]

/-- A declaration at the start of a text, with the text after it: a name and a quoted value, with blanks
    between them. Declarations of parameter entities and external entities are passed over. -/
def scan? (cs : List Char) : Option ((String × String) × List Char) := do
  let start := "<!ENTITY".toList
  guard (start.isPrefixOf cs)
  let blanks := cs.drop start.length
  let isNamePart (c : Char) := !Text.isBlank c && c != '%' && !isQuote c
  let rest := blanks.dropWhile Text.isBlank
  guard (rest.length < blanks.length)
  let name := rest.takeWhile isNamePart
  let blanks := rest.dropWhile isNamePart
  let rest := blanks.dropWhile Text.isBlank
  guard (!name.isEmpty && rest.length < blanks.length)
  match rest with
  | quote :: rest =>
    guard (isQuote quote)
    match rest.dropWhile (· != quote) with
    | _ :: after =>
      match after.dropWhile Text.isBlank with
      | '>' :: after =>
        some ((String.ofList name, String.ofList (rest.takeWhile (· != quote))), after)
      | _ => none
    | [] => none
  | [] => none

/-- All declarations in a text after its first `skipped` characters. -/
def scanAll : (skipped : Nat) → List Char → List (String × String)
  | _, [] => []
  | skipped + 1, _ :: rest => scanAll skipped rest
  | 0, c :: rest =>
    match scan? (c :: rest) with
    | some (entity, after) => entity :: scanAll (rest.length - after.length) rest
    | none => scanAll 0 rest

/-- The entities that a document type declaration declares. The first declaration of a name counts. -/
def declarations (doctype : String) : Table String :=
  (scanAll 0 doctype.toList).foldl (fun entities (name, value) =>
    if entities.contains name then entities else entities.set name value) {}

/-- The number in a character reference. -/
def code? : List Char → Option Nat
  | '#' :: 'x' :: digits => if digits.isEmpty then none else number? 16 hexDigit? digits
  | '#' :: digits =>
    if digits.isEmpty || !digits.all Char.isDigit then none else number? 10 hexDigit? digits
  | _ => none
where
  number? (base : Nat) (digit? : Char → Option Nat) (digits : List Char) : Option Nat :=
    (digits.mapM digit?).map fun digits => digits.foldl (fun n d => base * n + d) 0

/-- The text a reference stands for: a character given by its number, or an entity. -/
def resolve? (entities : Table String) (later : Bool) (name : List Char) : Option String :=
  match name with
  | [] => none
  | '#' :: _ =>
    match code? name with
    | some code => if isReferable later code then some (Char.ofNat code).toString else none
    | none => none
  | _ => entities.get? (String.ofList name)

end SvgPage.Markup.Entity
