import Mathlib.Data.List.Basic
import SvgPage.Content.Operator

namespace SvgPage

namespace PaintOperator

/-- Whether a path that ends so clips what follows. -/
def clips : PaintOperator → Bool
  | clip | clipEvenOdd => true
  | _ => false

/-- Whether a path that ends so leaves marks. -/
def marks : PaintOperator → Bool
  | endPath | clip | clipEvenOdd => false
  | _ => true

end PaintOperator

namespace Operator

variable {α : Type}

/-- Whether an operator builds a path. -/
def isConstruction : Operator α → Bool
  | moveTo _ | lineTo _ | curveTo _ | closePath | rect _ => true
  | _ => false

/-- Whether an operator leaves marks on the page. -/
def isPainting : Operator α → Bool
  | paint operator => operator.marks
  | shading _ | image _ | showText _ => true
  | _ => false

def isSave : Operator α → Bool
  | save => true
  | _ => false

def isRestore : Operator α → Bool
  | restore => true
  | _ => false

end Operator

/-- What a reader of a content stream keeps track of: the clipping paths in force, those of the saved
    graphics states, the path under construction, and whether a text object is open. Innermost entries
    come first, except in the path. -/
structure ContentState (α : Type) where
  clips : List (List (Operator α))
  saved : List (List (List (Operator α)))
  path : List (Operator α)
  inText : Bool

namespace ContentState

variable {α : Type}

/-- Between two objects of the page: no path is under construction, and no text object is open. -/
def between (clips : List (List (Operator α))) (saved : List (List (List (Operator α)))) : ContentState α :=
  ⟨clips, saved, [], false⟩

def isBetween (state : ContentState α) : Bool := state.path.isEmpty && !state.inText

/-- Adds an operator to the path. -/
def construct (state : ContentState α) (operator : Operator α) : Option (ContentState α) :=
  if state.inText then none else some { state with path := state.path ++ [operator] }

/-- Ends the path. If it clips, it is in force from now on. -/
def endPath (state : ContentState α) (operator : PaintOperator) : Option (ContentState α) :=
  if state.inText then none
  else some { state with
    path := []
    clips := if operator.clips then state.path :: state.clips else state.clips }

/-- Reads an operator. Graphics states are not restored unless they are saved, only operators that build
    the path stand between the first of them and the one that ends the path, and text objects are not
    nested and hold text alone. -/
def read (state : ContentState α) : Operator α → Option (ContentState α)
  | .moveTo target => state.construct (.moveTo target)
  | .lineTo target => state.construct (.lineTo target)
  | .curveTo cubic => state.construct (.curveTo cubic)
  | .closePath => state.construct .closePath
  | .rect box => state.construct (.rect box)
  | .paint operator => state.endPath operator
  | .save => if state.isBetween then some { state with saved := state.clips :: state.saved } else none
  | .restore =>
    match state.saved, state.isBetween with
    | clips :: outer, true => some { state with clips, saved := outer }
    | _, _ => none
  | .beginText => if state.isBetween then some { state with inText := true } else none
  | .endText => if state.inText then some { state with inText := false } else none
  | .font _ | .textPosition _ _ | .showText _ => if state.inText then some state else none
  | .transform _ | .fillColor _ | .strokeColor _ | .lineStyle _ | .graphicsState _ | .shading _ | .image _ =>
    if state.isBetween then some state else none

/-- Reads operators in turn. -/
def readAll (state : ContentState α) : List (Operator α) → Option (ContentState α)
  | [] => some state
  | operator :: rest => (state.read operator).bind fun next => next.readAll rest

theorem readAll_append (state : ContentState α) (first second : List (Operator α)) :
    state.readAll (first ++ second) = (state.readAll first).bind (·.readAll second) := by
  induction first generalizing state with
  | nil => rfl
  | cons operator rest ih =>
    simp only [List.cons_append, readAll, Option.bind_assoc]
    congr 1
    funext next
    exact ih next

theorem readAll_append_of_eq {state next : ContentState α} {first : List (Operator α)}
    (h : state.readAll first = some next) (second : List (Operator α)) :
    state.readAll (first ++ second) = next.readAll second := by
  rw [readAll_append, h, Option.bind_some]

/-- What is read up to any place of a stream that can be read. -/
theorem exists_readAll_of_append {state last : ContentState α} {first second : List (Operator α)}
    (h : state.readAll (first ++ second) = some last) :
    ∃ next, state.readAll first = some next ∧ next.readAll second = some last := by
  rw [readAll_append] at h
  exact Option.bind_eq_some_iff.1 h

/-- What one operator can do to the saved graphics states. -/
theorem read_saved {state next : ContentState α} {operator : Operator α}
    (h : state.read operator = some next) :
    (operator.isSave = false ∧ operator.isRestore = false ∧ next.saved = state.saved ∧
        (next.clips = state.clips ∨ next.clips = state.path :: state.clips)) ∨
      (operator = .save ∧ next = { state with saved := state.clips :: state.saved }) ∨
      (operator = .restore ∧ ∃ clips outer, state.saved = clips :: outer ∧
        next = { state with clips, saved := outer }) := by
  cases operator with
  | save =>
    simp only [read] at h
    split at h
    · cases h
      exact .inr (.inl ⟨rfl, rfl⟩)
    · cases h
  | restore =>
    simp only [read] at h
    split at h
    next clips outer hsaved _ =>
      cases h
      exact .inr (.inr ⟨rfl, clips, outer, hsaved, rfl⟩)
    · cases h
  | paint operator =>
    simp only [read, endPath] at h
    split at h
    · cases h
    · cases h
      refine .inl ⟨rfl, rfl, rfl, ?_⟩
      dsimp only
      split
      · exact .inr rfl
      · exact .inl rfl
  | _ =>
    simp only [read, construct] at h
    split at h
    all_goals cases h
    exact .inl ⟨rfl, rfl, rfl, .inl rfl⟩

/-- The same state with other saved graphics states below those that a reader knows of. -/
def above (state : ContentState α) (base : List (List (List (Operator α)))) : ContentState α :=
  { state with saved := state.saved ++ base }

@[simp] theorem isBetween_above (state : ContentState α) (base : List (List (List (Operator α)))) :
    (state.above base).isBetween = state.isBetween := rfl

@[simp] theorem inText_above (state : ContentState α) (base : List (List (List (Operator α)))) :
    (state.above base).inText = state.inText := rfl

/-- Saved graphics states below those that a reader knows of are of no account to it. -/
theorem read_above {state next : ContentState α} {operator : Operator α} (h : state.read operator = some next)
    (base : List (List (List (Operator α)))) : (state.above base).read operator = some (next.above base) := by
  cases operator with
  | restore =>
    simp only [read] at h
    split at h
    next clips outer hsaved hbetween =>
      cases h
      have hbetween' : (state.above base).isBetween = true := hbetween
      have hsaved' : (state.above base).saved = clips :: (outer ++ base) := by
        simp only [above, hsaved, List.cons_append]
      simp only [read, hsaved', hbetween']
      rfl
    · cases h
  | _ =>
    simp only [read, construct, endPath] at h ⊢
    obtain ⟨hguard, rfl⟩ := by
      simpa only [Option.ite_none_right_eq_some, Option.ite_none_left_eq_some, Option.some.injEq] using h
    simp only [isBetween_above, inText_above, hguard]
    rfl

theorem readAll_above {state last : ContentState α} {operators : List (Operator α)}
    (h : state.readAll operators = some last) (base : List (List (List (Operator α)))) :
    (state.above base).readAll operators = some (last.above base) := by
  induction operators generalizing state with
  | nil =>
    cases h
    rfl
  | cons operator rest ih =>
    obtain ⟨next, hread, hrest⟩ := Option.bind_eq_some_iff.1 h
    rw [readAll, read_above hread base, Option.bind_some]
    exact ih hrest

/-- Every operator that saves a graphics state adds one, and every operator that restores one takes it. -/
theorem countP_isSave_of_readAll {state last : ContentState α} {operators : List (Operator α)}
    (h : state.readAll operators = some last) :
    state.saved.length + operators.countP Operator.isSave =
      last.saved.length + operators.countP Operator.isRestore := by
  induction operators generalizing state with
  | nil =>
    cases h
    rfl
  | cons operator rest ih =>
    obtain ⟨next, hread, hrest⟩ := Option.bind_eq_some_iff.1 h
    have hcount := ih hrest
    simp only [List.countP_cons]
    obtain ⟨hsave, hrestore, hsaved, -⟩ | ⟨rfl, rfl⟩ | ⟨rfl, clips, outer, hsaved, rfl⟩ := read_saved hread
    · rw [hsave, hrestore, ← hsaved]
      simpa using hcount
    · simp only [Operator.isSave, Operator.isRestore, List.length_cons] at hcount ⊢
      simp only [if_true, Bool.false_eq_true, if_false]
      omega
    · simp only [Operator.isSave, Operator.isRestore, hsaved, List.length_cons] at hcount ⊢
      simp only [if_true, Bool.false_eq_true, if_false]
      omega

/-- A clipping path that is in force, and will be whatever saved graphics state is restored. -/
def InForce (clip : List (Operator α)) (state : ContentState α) : Prop :=
  clip ∈ state.clips ∧ ∀ clips ∈ state.saved, clip ∈ clips

theorem InForce.readAll {clip : List (Operator α)} {state last : ContentState α}
    {operators : List (Operator α)} (hclip : InForce clip state) (h : state.readAll operators = some last) :
    InForce clip last := by
  induction operators generalizing state with
  | nil =>
    cases h
    exact hclip
  | cons operator rest ih =>
    obtain ⟨next, hread, hrest⟩ := Option.bind_eq_some_iff.1 h
    refine ih ?_ hrest
    obtain ⟨hmem, hall⟩ := hclip
    obtain ⟨-, -, hsaved, hclips⟩ | ⟨-, rfl⟩ | ⟨-, clips, outer, hsaved, rfl⟩ := read_saved hread
    · rw [InForce, hsaved]
      refine ⟨?_, hall⟩
      obtain hclips | hclips := hclips
      · rwa [hclips]
      · rw [hclips]
        exact List.mem_cons_of_mem _ hmem
    · exact ⟨hmem, List.forall_mem_cons.2 ⟨hmem, hall⟩⟩
    · rw [hsaved] at hall
      exact List.forall_mem_cons.1 hall

end ContentState

end SvgPage
