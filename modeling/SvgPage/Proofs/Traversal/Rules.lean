import SvgPage.Proofs.Drawing.Adds

namespace SvgPage

namespace Draw

variable {α : Type} [Scalar α]

/-- A property that all parts of what tags do have, and whatever is put together from such parts. An action may look at
    all of a document but what has been written for it. -/
structure Rules (setting : Setting α) (embed : Option (Embedding α)) (P : (β : Type) → Draw α β → Prop) : Prop where
  pure : ∀ {β : Type} (result : β), P β (Pure.pure result)
  throw : ∀ {β : Type} (failure : Failure α), P β (throw failure)
  bind : ∀ {β γ : Type} {action : Draw α β} {next : β → Draw α γ}, P β action → (∀ result, P γ (next result)) →
    P γ (action >>= next)
  document_bind : ∀ {β : Type} {next : Document α → Draw α β},
    (∀ document output, next (Document.on document output) = next document) → (∀ document, P β (next document)) →
      P β (document >>= next)
  characters : ∀ text, P Unit (characters text)
  push : ∀ element, P Unit (change (·.push element))
  whileExpanding : ∀ {action : Draw α Unit} (id : String), P Unit action → P Unit (whileExpanding id action)
  embedDocument : ∀ embed' ∈ embed, ∀ inner markup, P Unit (embedDocument embed' inner markup)
  openRoot : ∀ name attributes, P Unit (openRoot setting name attributes)
  beginTag : ∀ name attributes, P (Begun α) (update (·.beginTag setting name attributes))
  endElement : ∀ element outer name, P Unit (update fun document => do
    return (← { document with openElements := outer }.endElement setting element name, ()))

namespace Rules

variable {setting : Setting α} {embed : Option (Embedding α)} {P : (β : Type) → Draw α β → Prop}
  (rules : Rules setting embed P)

include rules

theorem endTag (name : String) : P Unit (Draw.endTag setting name) := by
  refine rules.document_bind (fun _ _ => rfl) fun document => ?_
  cases document.openElements with
  | nil => exact rules.throw _
  | cons element outer => exact rules.endElement element outer name

theorem replay {start : StartHandler α} (hstart : ∀ name attributes, P Unit (start name attributes))
    (tags : List DefinitionEvent) : P Unit (Draw.replay setting start tags) := by
  induction tags with
  | nil => exact rules.pure ()
  | cons tag rest ih =>
    cases tag with
    | startTag name attributes leadingText =>
      exact rules.bind (rules.characters leadingText) fun _ => rules.bind (hstart name attributes) fun _ => ih
    | endTag name leadingText =>
      exact rules.bind (rules.characters leadingText) fun _ => rules.bind (rules.endTag name) fun _ => ih

theorem carryOut {start : Option (StartHandler α)}
    (hstart : ∀ start' ∈ start, ∀ name attributes, P Unit (start' name attributes)) (opening : Opening α) :
    P (Closing α) (Draw.carryOut setting embed start opening) := by
  cases opening with
  | element closing => exact rules.pure closing
  | expansion id tags =>
    cases start with
    | none => exact rules.pure Closing.nothing
    | some start =>
      exact rules.bind (rules.whileExpanding id (rules.replay (hstart start rfl) tags)) fun _ => rules.pure _
  | embedding inner markup =>
    cases embed with
    | none => exact rules.pure Closing.nothing
    | some embed => exact rules.bind (rules.embedDocument embed rfl inner markup) fun _ => rules.pure _

theorem startTagWith {start : Option (StartHandler α)}
    (hstart : ∀ start' ∈ start, ∀ name attributes, P Unit (start' name attributes)) (name : String)
    (attributes : Attributes) : P Unit (Draw.startTagWith setting embed start name attributes) := by
  refine rules.document_bind (fun _ _ => rfl) fun document => ?_
  split
  · exact rules.openRoot name attributes
  · refine rules.bind (rules.beginTag name attributes) fun begun => ?_
    exact rules.bind (rules.carryOut hstart begun.opening) fun closing => rules.push _

theorem startTag (levels : Nat) (name : String) (attributes : Attributes) :
    P Unit (Draw.startTag setting embed levels name attributes) := by
  induction levels generalizing name attributes with
  | zero => exact rules.startTagWith (fun start hnone => by cases hnone) name attributes
  | succ levels ih =>
    refine rules.startTagWith (fun start hstart => ?_) name attributes
    cases hstart
    exact ih

theorem event (event : MarkupEvent) : P Unit (Draw.event setting embed event) := by
  cases event with
  | startTag name attributes =>
    exact rules.document_bind (fun _ _ => rfl) fun document => rules.startTag _ name attributes
  | endTag name => exact rules.endTag name
  | text text => exact rules.characters text

theorem events (events : List MarkupEvent) : P Unit (Draw.events setting embed events) := by
  induction events with
  | nil => exact rules.pure ()
  | cons first rest ih => exact rules.bind (rules.event first) fun _ => ih

end Rules

end Draw

end SvgPage
