import Mathlib.Data.List.Basic
import SvgPage.Content.Resource
import SvgPage.Proofs.Content.Stream

namespace SvgPage

variable {α : Type}

namespace Resource

/-- The resource with a number among those of its kind. Numbers begin with one. -/
def ofNumber? (resources : List (Resource α)) (kind : ResourceKind) : Nat → Option (Resource α)
  | 0 => none
  | number + 1 => (resources.filter fun resource => resource.kind == kind)[number]?

/-- A resource has the number that it was given when it was registered. -/
theorem ofNumber?_numberAfter (registered : Array (Resource α)) (resource : Resource α) :
    ofNumber? (registered.push resource).toList resource.kind (numberAfter registered resource.kind) =
      some resource := by
  have hcount : registered.countP (fun other => other.kind == resource.kind) =
      (registered.toList.filter fun other => other.kind == resource.kind).length := by
    rw [← List.countP_eq_length_filter, Array.countP_toList]
  rw [numberAfter, ofNumber?, hcount, Array.toList_push, List.filter_append]
  simp

/-- Resources that are registered later do not change the numbers of others. -/
theorem ofNumber?_of_isPrefix {resources others : List (Resource α)} {kind : ResourceKind} {number : Nat}
    {resource : Resource α} (hmore : resources <+: others)
    (h : ofNumber? resources kind number = some resource) : ofNumber? others kind number = some resource := by
  obtain ⟨more, rfl⟩ := hmore
  cases number with
  | zero => cases h
  | succ number =>
    have hbound := (List.getElem?_eq_some_iff.1 h).1
    rw [ofNumber?, List.filter_append, List.getElem?_append_left hbound]
    exact h

end Resource

/-- What a graphics state says about where and how paint is applied: the map from user space to the page,
    how far areas and lines cover what lies under them, and how they are combined with it. -/
structure GraphicsState (α : Type) where
  matrix : Matrix α
  fillAlpha : α
  strokeAlpha : α
  blendMode : BlendMode

namespace GraphicsState

variable [Scalar α]

/-- The graphics state in which a page begins. -/
def initial : GraphicsState α := ⟨.identity, 1, 1, .normal⟩

/-- The graphics state after an operator that changes nothing but the graphics state in force. A resource
    that an operator refers to has to be there. -/
def apply (resources : List (Resource α)) (state : GraphicsState α) : Operator α → Option (GraphicsState α)
  | .transform matrix => some { state with matrix := state.matrix.multiply matrix }
  | .graphicsState number =>
    match Resource.ofNumber? resources .graphicsState number with
    | some (.graphicsState fillAlpha strokeAlpha blendMode) =>
      some { state with fillAlpha, strokeAlpha, blendMode }
    | _ => none
  | _ => some state

end GraphicsState

/-- What a reader of a content stream keeps track of: the graphics state in force, and those that are
    saved, innermost first. -/
structure Canvas (α : Type) where
  state : GraphicsState α
  saved : List (GraphicsState α)

namespace Canvas

variable [Scalar α]

/-- The beginning of a page. -/
def initial : Canvas α := ⟨.initial, []⟩

/-- Reads an operator. Graphics states are not restored unless they are saved. -/
def read (resources : List (Resource α)) (canvas : Canvas α) : Operator α → Option (Canvas α)
  | .save => some { canvas with saved := canvas.state :: canvas.saved }
  | .restore =>
    match canvas.saved with
    | [] => none
    | state :: saved => some { state, saved }
  | operator => (canvas.state.apply resources operator).map fun state => { canvas with state }

theorem read_graphicsState {resources : List (Resource α)} {number : Nat} {fillAlpha strokeAlpha : α}
    {blendMode : BlendMode} (canvas : Canvas α)
    (h : Resource.ofNumber? resources .graphicsState number =
      some (.graphicsState fillAlpha strokeAlpha blendMode)) :
    canvas.read resources (.graphicsState number) =
      some { canvas with state := { canvas.state with fillAlpha, strokeAlpha, blendMode } } := by
  simp only [read, GraphicsState.apply, h, Option.map_some]

/-- Reads operators in turn. -/
def readAll (resources : List (Resource α)) (canvas : Canvas α) : List (Operator α) → Option (Canvas α)
  | [] => some canvas
  | operator :: rest => (canvas.read resources operator).bind fun next => next.readAll resources rest

theorem readAll_append (resources : List (Resource α)) (canvas : Canvas α) (first second : List (Operator α)) :
    canvas.readAll resources (first ++ second) =
      (canvas.readAll resources first).bind (·.readAll resources second) := by
  induction first generalizing canvas with
  | nil => rfl
  | cons operator rest ih =>
    simp only [List.cons_append, readAll, Option.bind_assoc]
    congr 1
    funext next
    exact ih next

end Canvas

variable [Scalar α]

/-- Operators lead from one canvas to another, and where each of them stands something holds of it and the
    graphics state in force. -/
inductive Reads (resources : List (Resource α)) (P : Operator α → GraphicsState α → Prop) :
    Canvas α → List (Operator α) → Canvas α → Prop
  | nil {canvas} : Reads resources P canvas [] canvas
  | cons {canvas next last operator rest} (hholds : P operator canvas.state)
      (hread : canvas.read resources operator = some next) (hrest : Reads resources P next rest last) :
      Reads resources P canvas (operator :: rest) last

namespace Reads

variable {resources others : List (Resource α)} {P Q : Operator α → GraphicsState α → Prop}
  {canvas next last : Canvas α} {first second operators : List (Operator α)}

theorem append (hfirst : Reads resources P canvas first next) (hsecond : Reads resources P next second last) :
    Reads resources P canvas (first ++ second) last := by
  induction hfirst with
  | nil => exact hsecond
  | cons hholds hread hrest ih => exact .cons hholds hread (ih hsecond)

theorem readAll (h : Reads resources P canvas operators last) :
    canvas.readAll resources operators = some last := by
  induction h with
  | nil => rfl
  | cons hholds hread hrest ih => rw [Canvas.readAll, hread, Option.bind_some, ih]

theorem mono (h : Reads resources P canvas operators last)
    (himp : ∀ operator state, P operator state → Q operator state) :
    Reads resources Q canvas operators last := by
  induction h with
  | nil => exact .nil
  | cons hholds hread hrest ih => exact .cons (himp _ _ hholds) hread ih

theorem of_readAll (h : canvas.readAll resources operators = some last)
    (hholds : ∀ operator state, P operator state) : Reads resources P canvas operators last := by
  induction operators generalizing canvas with
  | nil =>
    cases h
    exact .nil
  | cons operator rest ih =>
    obtain ⟨next, hread, hrest⟩ := Option.bind_eq_some_iff.1 h
    exact .cons (hholds _ _) hread (ih hrest)

/-- The graphics state in force where an operator stands. -/
theorem exists_state {operator : Operator α}
    (h : Reads resources P canvas (first ++ operator :: second) last) :
    ∃ before, canvas.readAll resources first = some before ∧ P operator before.state := by
  induction first generalizing canvas with
  | nil =>
    cases h with
    | cons hholds hread hrest => exact ⟨canvas, rfl, hholds⟩
  | cons other first ih =>
    cases h with
    | cons hholds hread hrest =>
      obtain ⟨before, hbefore, hstate⟩ := ih hrest
      refine ⟨before, ?_, hstate⟩
      rw [Canvas.readAll, hread, Option.bind_some, hbefore]

theorem read_of_isPrefix (hmore : resources <+: others) {operator : Operator α}
    (h : canvas.read resources operator = some next) : canvas.read others operator = some next := by
  cases operator with
  | graphicsState number =>
    simp only [Canvas.read, GraphicsState.apply] at h ⊢
    cases hfound : Resource.ofNumber? resources .graphicsState number with
    | none =>
      rw [hfound] at h
      cases h
    | some resource =>
      rw [hfound] at h
      rw [Resource.ofNumber?_of_isPrefix hmore hfound]
      exact h
  | _ => exact h

/-- Resources that are registered later change nothing. -/
theorem of_isPrefix (h : Reads resources P canvas operators last) (hmore : resources <+: others) :
    Reads others P canvas operators last := by
  induction h with
  | nil => exact .nil
  | cons hholds hread hrest ih => exact .cons hholds (read_of_isPrefix hmore hread) ih

/-- A graphics state of its own for what is inside. -/
theorem saved {state inner : GraphicsState α} {saved : List (GraphicsState α)}
    (hsave : P .save state) (hrestore : P .restore inner)
    (h : Reads resources P ⟨state, state :: saved⟩ operators ⟨inner, state :: saved⟩) :
    Reads resources P ⟨state, saved⟩ (.save :: operators ++ [.restore]) ⟨state, saved⟩ :=
  (Reads.cons hsave rfl h).append (.cons hrestore rfl .nil)

end Reads

namespace Operator

/-- Whether an operator changes the parts of a graphics state that a canvas has. -/
def changesState : Operator α → Bool
  | save | restore | transform _ | graphicsState _ => true
  | _ => false

theorem read_of_not_changesState {operator : Operator α} (h : operator.changesState = false)
    (resources : List (Resource α)) (canvas : Canvas α) :
    canvas.read resources operator = some canvas := by
  cases operator <;> first | rfl | cases h

end Operator

theorem Reads.of_not_changesState {resources : List (Resource α)} {P : Operator α → GraphicsState α → Prop}
    {operators : List (Operator α)} (canvas : Canvas α)
    (hkeeps : ∀ operator ∈ operators, operator.changesState = false)
    (hholds : ∀ operator ∈ operators, P operator canvas.state) :
    Reads resources P canvas operators canvas := by
  induction operators with
  | nil => exact .nil
  | cons operator rest ih =>
    obtain ⟨hkeep, hkeeps⟩ := List.forall_mem_cons.1 hkeeps
    obtain ⟨hhold, hholds⟩ := List.forall_mem_cons.1 hholds
    exact .cons hhold (Operator.read_of_not_changesState hkeep resources canvas) (ih hkeeps hholds)

end SvgPage
