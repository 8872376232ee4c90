import Mathlib.Logic.Relation
import SvgPage.Drawing.Draw

namespace SvgPage

namespace DefinitionEvent

/-- What a recorded tag is to the document in which it is handled again. -/
def event : DefinitionEvent → MarkupEvent
  | startTag name attributes _ => .startTag name attributes
  | endTag name _ => .endTag name

def leadingText : DefinitionEvent → String
  | startTag _ _ text => text
  | endTag _ text => text

end DefinitionEvent

/-- A `use` that is being expanded: the id of the element it refers to, the tags of the element that are
    still to be handled, whether the tags of the `use` are recorded, and whether a recording ends with it. -/
structure Expansion where
  id : String
  rest : List DefinitionEvent
  recorded : Bool
  defines : Bool

/-- The element that a `use` will be on the stack of open elements. -/
def Expansion.element {α : Type} (expansion : Expansion) : OpenElement α :=
  ⟨.nothing, expansion.recorded, expansion.defines⟩

/-- A document between two events: the drawing, the uses that are being expanded, innermost first, and the
    events still to come. -/
structure Stage (α : Type) where
  drawing : Drawing α
  expansions : List Expansion
  rest : List MarkupEvent

/-- What becomes of a stage: the next one, a document to be drawn before the stage goes on with an image
    on the stack of open elements, a failure, or the end of the document. -/
inductive Progress (α : Type) where
  | next (stage : Stage α)
  | embedding (inner : Setting α) (markup : String) (waiting : Stage α) (element : OpenElement α)
  | failed (failure : Failure α) (ledger : Ledger α)
  | ended

/-- A stage, or the failure of the whole conversion. -/
abbrev Outcome (α : Type) := Except (Failure α × Ledger α) (Stage α)

namespace Stage

variable {α : Type}

def document (stage : Stage α) : Document α := stage.drawing.document

def change (stage : Stage α) (action : Document α → Document α) : Stage α :=
  { stage with drawing := { stage.drawing with document := action stage.document } }

/-- The next event, which is a tag of the innermost element that is being expanded if there is one, and
    the stage in which it is to be handled. The characters before a recorded tag have been handled there. -/
def fetch (stage : Stage α) : Option (MarkupEvent × Stage α) :=
  match stage.expansions with
  | expansion :: outer =>
    match expansion.rest with
    | [] => none
    | tag :: rest =>
      some (tag.event,
        { stage.change (·.addText tag.leadingText) with expansions := { expansion with rest } :: outer })
  | [] =>
    match stage.rest with
    | [] => none
    | event :: rest => some (event, { stage with rest })

variable [Scalar α]

/-- A document of which nothing has been handled. -/
def initial (setting : Setting α) (ledger : Ledger α) (events : List MarkupEvent) : Stage α :=
  ⟨.initial setting ledger, [], events⟩

/-- Goes on after an action that leaves the uses as they are. -/
def advanceBy (stage : Stage α) (action : Draw α Unit) : Progress α :=
  match action stage.drawing with
  | (.ok (), drawing) => .next { stage with drawing }
  | (.error failure, drawing) => .failed failure drawing.ledger

/-- Goes on after the start tag of an element in the root, as far as it does not need more than that. -/
def afterBegun (stage : Stage α) (begun : Begun α) : Progress α :=
  match begun.opening with
  | .element closing => .next (stage.change (·.push ⟨closing, begun.recorded, begun.defines⟩))
  | .expansion id tags =>
    .next { stage.change (·.beginExpansion id) with
      expansions := ⟨id, tags, begun.recorded, begun.defines⟩ :: stage.expansions }
  | .embedding inner markup =>
    .embedding inner markup stage ⟨.nothing, begun.recorded, begun.defines⟩

def startTag (setting : Setting α) (stage : Stage α) (name : String) (attributes : Attributes) :
    Progress α :=
  if stage.document.rootSeen then
    let ((document, begun), ledger) :=
      stage.document.beginTag setting name attributes stage.drawing.ledger
    { stage with drawing := { stage.drawing with document, ledger } }.afterBegun begun
  else
    stage.advanceBy (Draw.openRoot setting name attributes)

/-- Handles one event that has been fetched. -/
def handle (setting : Setting α) (stage : Stage α) : MarkupEvent → Progress α
  | .startTag name attributes => stage.startTag setting name attributes
  | .endTag name => stage.advanceBy (Draw.endTag setting name)
  | .text text => .next (stage.change (·.addText text))

/-- Ends the innermost expansion. The element of its `use` is open from now on. -/
def endExpansion (stage : Stage α) (expansion : Expansion) (outer : List Expansion) : Stage α :=
  { stage.change fun document => (document.endExpansion expansion.id).push expansion.element with
    expansions := outer }

/-- Handles one event, or ends an expansion all of whose tags have been handled. -/
def step (setting : Setting α) (stage : Stage α) : Progress α :=
  match stage.fetch with
  | some (event, fetched) => fetched.handle setting event
  | none =>
    match stage.expansions with
    | expansion :: outer => .next (stage.endExpansion expansion outer)
    | [] => .ended

/-- Goes on after a document has been embedded or left out. -/
def resume (stage : Stage α) (ledger : Ledger α) (embedded : List (DocumentTree α))
    (element : OpenElement α) : Stage α :=
  { stage with drawing := { ledger, document := stage.document.push element, embedded } }

end Stage

namespace Progress

variable {α : Type} [Scalar α]

/-- What becomes of a stage where `embed` draws the embedded documents. There is nothing at the end of the
    document. -/
def resolve (embed : Option (Embedding α)) : Progress α → Option (Outcome α)
  | next stage => some (.ok stage)
  | embedding inner markup waiting element =>
    match embed with
    | none => some (.ok (waiting.resume waiting.drawing.ledger waiting.drawing.embedded element))
    | some embed =>
      match embed inner markup waiting.drawing.ledger with
      | (.ok tree, ledger) =>
        some (.ok (waiting.resume ledger (waiting.drawing.embedded ++ [tree]) element))
      | (.error failure, ledger) => some (.error (failure, ledger))
  | failed failure ledger => some (.error (failure, ledger))
  | ended => none

end Progress

namespace Stage

variable {α : Type} [Scalar α]

/-- One stage leads to another, where `embed` draws the embedded documents. -/
inductive Leads (setting : Setting α) (embed : Option (Embedding α)) : Outcome α → Outcome α → Prop
  | step {stage : Stage α} {outcome : Outcome α}
      (h : (stage.step setting).resolve embed = some outcome) : Leads setting embed (.ok stage) outcome

/-- One stage leads to another in any number of steps. -/
abbrev Runs (setting : Setting α) (embed : Option (Embedding α)) : Outcome α → Outcome α → Prop :=
  Relation.ReflTransGen (Leads setting embed)

/-- The stages that drawing a document passes, those within expanded uses included. -/
def Reached (setting : Setting α) (embed : Option (Embedding α)) (events : List MarkupEvent)
    (stage : Stage α) : Prop :=
  ∃ ledger, Runs setting embed (.ok (.initial setting ledger events)) (.ok stage)

end Stage

end SvgPage
