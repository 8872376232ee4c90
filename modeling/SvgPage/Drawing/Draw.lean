import SvgPage.Drawing.Closing
import SvgPage.Drawing.Opening
import SvgPage.Markup.Event

namespace SvgPage

/-- A document that is being drawn, with what is kept of all drawings and the documents embedded so far. -/
structure Drawing (α : Type) where
  ledger : Ledger α
  document : Document α
  embedded : List (DocumentTree α) := []

/-- An action on a drawing. Where it fails, the drawing stays as it has been left. -/
abbrev Draw (α : Type) := ExceptT (Failure α) (StateM (Drawing α))

/-- How a document embedded in another one is drawn. -/
abbrev Embedding (α : Type) :=
  Setting α → String → StateM (Ledger α) (Except (Failure α) (DocumentTree α))

/-- How the start tag of an element is handled. -/
abbrev StartHandler (α : Type) := String → Attributes → Draw α Unit

/-- A drawing that begins. -/
def Drawing.initial {α : Type} [Scalar α] (setting : Setting α) (ledger : Ledger α) : Drawing α where
  ledger
  document := .initial setting

namespace Document

variable {α : Type}

/-- Marks an id as being expanded. -/
def beginExpansion (document : Document α) (id : String) : Document α :=
  { document with expanding := id :: document.expanding, replayDepth := document.replayDepth + 1 }

def endExpansion (document : Document α) (id : String) : Document α :=
  { document with
    expanding := document.expanding.erase id
    replayDepth := document.replayDepth - 1 }

end Document

namespace Draw

variable {α β : Type} [Scalar α]

def document : Draw α (Document α) := do return (← get).document

/-- Changes the document. -/
def change (action : Document α → Document α) : Draw α Unit :=
  modify fun drawing => { drawing with document := action drawing.document }

/-- Changes the document by an action that may use the ledger. -/
def update (action : Document α → StateM (Ledger α) (Document α × β)) : Draw α β := do
  let drawing ← get
  let ((document, result), ledger) := action drawing.document drawing.ledger
  set { drawing with document, ledger }
  return result

/-- Handles an end tag: it ends the innermost open element. -/
def endTag (setting : Setting α) (name : String) : Draw α Unit := do
  match (← document).openElements with
  | [] => throw (.unexpectedEnd name)
  | element :: outer =>
    update fun document => do
      let popped := { document with openElements := outer }
      return (← popped.endElement setting element name, ())

/-- Handles characters. -/
def characters (text : String) : Draw α Unit := change (·.addText text)

/-- Handles recorded tags and the characters before them. -/
def replay (setting : Setting α) (start : StartHandler α) : List DefinitionEvent → Draw α Unit
  | [] => return
  | .startTag name attributes leadingText :: rest => do
    characters leadingText
    start name attributes
    replay setting start rest
  | .endTag name leadingText :: rest => do
    characters leadingText
    endTag setting name
    replay setting start rest

/-- Marks an id as being expanded while an action runs, whether it fails or not. -/
def whileExpanding (id : String) (action : Draw α Unit) : Draw α Unit := fun drawing =>
  let (result, after) := action { drawing with document := drawing.document.beginExpansion id }
  (result, { after with document := after.document.endExpansion id })

/-- Draws an embedded document. -/
def embedDocument (embed : Embedding α) (inner : Setting α) (markup : String) : Draw α Unit :=
  fun drawing =>
    match embed inner markup drawing.ledger with
    | (.error failure, ledger) => (.error failure, { drawing with ledger })
    | (.ok tree, ledger) =>
      (.ok (), { drawing with ledger, embedded := drawing.embedded ++ [tree] })

/-- Does what a start tag comes to before its element is open, and tells what its end tag has to undo.
    `start` handles the start tags of an expanded `use`. -/
def carryOut (setting : Setting α) (embed : Option (Embedding α)) (start : Option (StartHandler α)) :
    Opening α → Draw α (Closing α)
  | .element closing => return closing
  | .expansion id tags => do
    if let some start := start then
      whileExpanding id (replay setting start tags)
    return .nothing
  | .embedding inner markup => do
    if let some embed := embed then
      embedDocument embed inner markup
    return .nothing

/-- Opens the root of a document, which has to be an `svg`. -/
def openRoot (setting : Setting α) (name : String) (attributes : Attributes) : Draw α Unit :=
  fun drawing =>
    if ElementKind.ofName name != .svg then
      (.error (.foreignRoot name), drawing)
    else
      let document := { drawing.document with rootSeen := true }
      match (document.openRoot setting attributes).run drawing.ledger with
      | (.error failure, ledger) => (.error failure, { drawing with document, ledger })
      | (.ok (opened, closing), ledger) =>
        (.ok (), { drawing with document := opened.push ⟨closing, false, false⟩, ledger })

/-- Handles a start tag. `start` handles those of an expanded `use`. -/
def startTagWith (setting : Setting α) (embed : Option (Embedding α)) (start : Option (StartHandler α)) :
    StartHandler α := fun name attributes => do
  if !(← document).rootSeen then
    openRoot setting name attributes
  else
    let begun ← update (·.beginTag setting name attributes)
    let closing ← carryOut setting embed start begun.opening
    change (·.push ⟨closing, begun.recorded, begun.defines⟩)

/-- Handles a start tag where uses can nest to a number of levels. -/
def startTag (setting : Setting α) (embed : Option (Embedding α)) : (levels : Nat) → StartHandler α
  | 0 => startTagWith setting embed none
  | levels + 1 => startTagWith setting embed (some (startTag setting embed levels))

/-- How many more levels of uses there can be. Without a limit, no use is expanded inside itself, so there
    are no more of them than definitions, of which the tag at hand may begin another one. -/
def useLevels (setting : Setting α) (document : Document α) : Nat :=
  setting.options.nesting.levels.getD (document.definitions.size + 1) - document.expanding.length

/-- Handles a part of a document. -/
def event (setting : Setting α) (embed : Option (Embedding α)) : MarkupEvent → Draw α Unit
  | .startTag name attributes => do
    startTag setting embed (useLevels setting (← document)) name attributes
  | .endTag name => endTag setting name
  | .text text => characters text

def events (setting : Setting α) (embed : Option (Embedding α)) : List MarkupEvent → Draw α Unit
  | [] => return
  | first :: rest => do
    event setting embed first
    events setting embed rest

end Draw

end SvgPage
