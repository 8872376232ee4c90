import SvgPage.Proofs.Exact
import SvgPage.Proofs.Traversal.Reached

namespace SvgPage

open Document

/-- A recording that has only grown. -/
structure Recording.Extends (earlier later : Recording) : Prop where
  id : later.id = earlier.id
  events : earlier.events.toList <+: later.events.toList

namespace Recording.Extends

theorem refl (recording : Recording) : Extends recording recording := ⟨rfl, List.prefix_rfl⟩

theorem trans {first second third : Recording} (hfirst : Extends first second)
    (hsecond : Extends second third) : Extends first third :=
  ⟨hsecond.id.trans hfirst.id, hfirst.events.trans hsecond.events⟩

theorem push (recording : Recording) (event : DefinitionEvent) :
    Extends recording (recording.push event) := by
  refine ⟨rfl, [event], ?_⟩
  rw [Recording.push, Array.toList_push]

theorem supersede (recording : Recording) (id : String) : Extends recording (recording.supersede id) :=
  ⟨rfl, List.prefix_rfl⟩

end Recording.Extends

/-- Recordings that have only grown, under others that have begun since. -/
def Grown (earlier later : List Recording) : Prop :=
  ∃ own outer, later = own ++ outer ∧ List.Forall₂ Recording.Extends earlier outer

namespace Grown

variable {earlier later : List Recording}

theorem refl (recordings : List Recording) : Grown recordings recordings :=
  ⟨[], recordings, rfl, List.forall₂_same.2 fun recording _ => .refl recording⟩

theorem map (h : Grown earlier later) {action : Recording → Recording}
    (haction : ∀ recording : Recording, recording.Extends (action recording)) :
    Grown earlier (later.map action) := by
  obtain ⟨own, outer, rfl, houter⟩ := h
  refine ⟨own.map action, outer.map action, List.map_append, ?_⟩
  rw [List.forall₂_map_right_iff]
  exact houter.imp fun _ recording hrecording => hrecording.trans (haction recording)

theorem cons (h : Grown earlier later) (recording : Recording) : Grown earlier (recording :: later) := by
  obtain ⟨own, outer, rfl, houter⟩ := h
  exact ⟨recording :: own, outer, rfl, houter⟩

/-- A recording may end as long as those from the beginning are left. -/
theorem tail (h : Grown earlier later) (hlength : earlier.length ≤ later.tail.length) :
    Grown earlier later.tail := by
  obtain ⟨own, outer, rfl, houter⟩ := h
  have hsame := houter.length_eq
  cases own with
  | cons recording own => exact ⟨own, outer, rfl, houter⟩
  | nil =>
    cases outer with
    | nil => exact ⟨[], [], rfl, houter⟩
    | cons recording outer =>
      rw [List.nil_append, List.tail_cons, hsame, List.length_cons] at hlength
      omega

theorem eq_of_length (h : Grown earlier later) (hlength : later.length = earlier.length) :
    List.Forall₂ Recording.Extends earlier later := by
  obtain ⟨own, outer, rfl, houter⟩ := h
  rw [List.length_append, houter.length_eq] at hlength
  have hown : own = [] := List.length_eq_zero_iff.1 (by omega)
  rwa [hown]

end Grown

namespace Document

variable {α : Type}

/-- The scope around open elements, from the one inside the innermost of them. -/
def unwind (elements : List (OpenElement α)) (scope : Scope α) : Scope α :=
  elements.foldl (fun inner element => element.closing.undo inner) scope

/-- A document in which elements have been opened since it was `base`. What they are to undo leads back to
    the scope of `base`. -/
structure Within (base document : Document α) : Prop where
  rootSeen : document.rootSeen = true
  elements : ∃ above, document.openElements = above ++ base.openElements ∧
    unwind above document.scope = base.scope ∧
    (base.openGradient = none → (∀ element ∈ above, element.closing.isGradient = false) →
      document.openGradient = none)

/-- A document in which everything that elements share is again what it was. -/
structure Restores (before after : Document α) : Prop where
  frame : after.frame = before.frame
  openElements : after.openElements = before.openElements
  recordings : List.Forall₂ Recording.Extends before.recordings after.recordings
  definitionsDepth : after.definitionsDepth = before.definitionsDepth
  svgDepth : after.svgDepth = before.svgDepth
  clip : after.clip = before.clip
  replayDepth : after.replayDepth = before.replayDepth
  expanding : after.expanding = before.expanding
  text : after.text.map TextState.depth = before.text.map TextState.depth
  openGradient : before.openGradient = none → after.openGradient = none

section Recordings

variable {document result : Document α} {name : String} {earlier : List Recording}

theorem Records.grown {attributes : Attributes} {recorded defines : Bool}
    (h : Records document name attributes result recorded defines)
    (hgrown : Grown earlier document.recordings) : Grown earlier result.recordings := by
  cases h with
  | unrecorded => exact hgrown
  | shared leadingText hreplay => exact hgrown.map fun recording => .push recording _
  | @own leadingText id hreplay hid =>
    have hpushed := hgrown.map fun recording => .push recording (.startTag name attributes leadingText)
    exact (hpushed.map fun recording => .supersede recording id).cons _

theorem finishRecording_recordings (document : Document α) :
    document.finishRecording.recordings = document.recordings.tail := by
  rw [finishRecording]
  split
  next hnone => rw [hnone, List.tail_nil]
  next hrecordings => rw [hrecordings, List.tail_cons]

theorem Ends.grown {element : OpenElement α} (h : Ends document element name result)
    (hgrown : Grown earlier document.recordings) (hlength : earlier.length ≤ result.recordings.length) :
    Grown earlier result.recordings := by
  obtain ⟨closed, hcloses, rfl⟩ := h
  have hclosed : Grown earlier closed.recordings := by
    have hsame : closed.recordings = _ := congrArg Archive.recordings hcloses.archive_eq
    rw [hsame]
    split
    · exact hgrown.map fun recording => .push recording _
    · exact hgrown
  split
  next hdefines =>
    rw [if_pos hdefines, finishRecording_recordings] at hlength
    rw [finishRecording_recordings]
    exact hclosed.tail hlength
  · exact hclosed

/-- Recordings grow with an event. None of those from the beginning ends as long as they are not fewer. -/
theorem Handles.grown [Scalar α] {setting : Setting α} {event : MarkupEvent} {begun : Option Expansion}
    (h : Handles setting document event result begun) (hgrown : Grown earlier document.recordings)
    (hlength : earlier.length ≤ result.recordings.length) : Grown earlier result.recordings := by
  cases h with
  | text text =>
    rw [addText_recordings]
    exact hgrown
  | endTag helements hends => exact hends.grown hgrown hlength
  | root frame hroot hname hsize hrest => exact hgrown
  | @element _ _ recording _ _ opened _ hroot hrecords hopens hopening =>
    have hsame : opened.recordings = recording.recordings := congrArg Archive.recordings hopens.archive_eq
    change Grown earlier opened.recordings
    rw [hsame]
    exact hrecords.grown hgrown
  | use hroot hrecords hopens => exact hrecords.grown hgrown

end Recordings

namespace Within

variable {base document result : Document α}

theorem refl (hroot : base.rootSeen = true) : Within base base :=
  ⟨hroot, [], rfl, rfl, fun hnone _ => hnone⟩

/-- What elements do not undo does not count. -/
theorem of_eq (h : Within base document) (hroot : result.rootSeen = document.rootSeen)
    (helements : result.openElements = document.openElements) (hscope : result.scope = document.scope)
    (hgradient : result.openGradient = document.openGradient) : Within base result := by
  obtain ⟨hseen, above, habove, hunwind, hnone⟩ := h
  refine ⟨hroot.trans hseen, above, helements.trans habove, ?_, ?_⟩
  · rw [hscope, hunwind]
  · rwa [hgradient]

/-- An element is opened that remembers the scope around it. -/
theorem push (h : Within base document) {element : OpenElement α}
    (hroot : result.rootSeen = document.rootSeen)
    (helements : result.openElements = element :: document.openElements)
    (hscope : element.closing.undo result.scope = document.scope)
    (hgradient : element.closing.isGradient = false → result.openGradient = document.openGradient) :
    Within base result := by
  obtain ⟨hseen, above, habove, hunwind, hnone⟩ := h
  refine ⟨hroot.trans hseen, element :: above, ?_, ?_, fun hbase hall => ?_⟩
  · rw [helements, habove, List.cons_append]
  · rw [unwind, List.foldl_cons, hscope]
    exact hunwind
  · obtain ⟨helement, habove⟩ := List.forall_mem_cons.1 hall
    rw [hgradient helement]
    exact hnone hbase habove

/-- An element is closed that has been opened since. -/
theorem pop (h : Within base document) {element : OpenElement α}
    (hroot : result.rootSeen = document.rootSeen)
    (helements : document.openElements = element :: result.openElements)
    (hscope : result.scope = element.closing.undo document.scope)
    (hgradient : result.openGradient = if element.closing.isGradient then none else document.openGradient)
    (hstays : ∃ above, result.openElements = above ++ base.openElements) : Within base result := by
  obtain ⟨hseen, above, habove, hunwind, hnone⟩ := h
  obtain ⟨others, hothers⟩ := hstays
  rw [helements, hothers, ← List.cons_append] at habove
  have hsame := List.append_cancel_right habove
  subst hsame
  refine ⟨hroot.trans hseen, others, hothers, ?_, fun hbase hall => ?_⟩
  · rw [unwind, List.foldl_cons] at hunwind
    rw [hscope, unwind, hunwind]
  · rw [hgradient]
    split
    · rfl
    next helement =>
      exact hnone hbase (List.forall_mem_cons.2 ⟨Bool.eq_false_iff.2 helement, hall⟩)

theorem addText (h : Within base document) (text : String) : Within base (document.addText text) :=
  h.of_eq (congrArg Standing.rootSeen (addText_standing document text))
    (congrArg Standing.openElements (addText_standing document text)) (addText_scope document text)
    (addText_openGradient document text)

/-- What is left to undo when the same elements are open is nothing. -/
theorem restores (h : Within base document) (helements : document.openElements = base.openElements)
    (hrecordings : List.Forall₂ Recording.Extends base.recordings document.recordings)
    (hexpanding : document.expanding = base.expanding) (hreplay : document.replayDepth = base.replayDepth) :
    Restores base document := by
  obtain ⟨-, above, habove, hunwind, hnone⟩ := h
  rw [helements, List.self_eq_append_left] at habove
  subst habove
  exact
    { frame := congrArg Scope.frame hunwind
      openElements := helements
      recordings := hrecordings
      definitionsDepth := congrArg Scope.definitionsDepth hunwind
      svgDepth := congrArg Scope.svgDepth hunwind
      clip := congrArg Scope.clip hunwind
      replayDepth := hreplay
      expanding := hexpanding
      text := congrArg Scope.text hunwind
      openGradient := fun hbase => hnone hbase (List.forall_mem_nil _) }

variable [Scalar α] {setting : Setting α} {event : MarkupEvent} {begun : Option Expansion}

/-- Whatever an event opens remembers the scope around it, and whatever it closes gives that back. -/
theorem handles (h : Within base document) (hhandles : Handles setting document event result begun)
    (hstays : ∃ above, result.openElements = above ++ base.openElements) : Within base result := by
  cases hhandles with
  | text text => exact h.addText text
  | endTag helements hends =>
    have hstanding := hends.standing_eq
    refine h.pop (congrArg Standing.rootSeen hstanding) ?_ hends.scope_eq hends.openGradient_eq hstays
    rw [helements]
    exact congrArg (_ :: Standing.openElements ·) hstanding.symm
  | root frame hroot hname hsize hrest =>
    rw [h.rootSeen] at hroot
    cases hroot
  | element hroot hrecords hopens hopening =>
    have hstanding := hopens.standing_eq.trans hrecords.standing_eq
    exact h.push (congrArg Standing.rootSeen hstanding)
      (congrArg (_ :: Standing.openElements ·) hstanding) (hopens.undo_scope.trans hrecords.scope_eq)
      (fun hclosing => (hopens.openGradient_eq hclosing).trans hrecords.openGradient_eq)
  | use hroot hrecords hopens =>
    exact h.of_eq (congrArg Standing.rootSeen hrecords.standing_eq)
      (congrArg Standing.openElements hrecords.standing_eq) hrecords.scope_eq hrecords.openGradient_eq

end Within

end Document

namespace Stage

variable {α : Type} [Scalar α] {setting : Setting α} {base : Document α} {stage next : Stage α}

theorem Passes.within (h : Passes setting stage next) (hwithin : Within base stage.document)
    (hstays : ∃ above, next.document.openElements = above ++ base.openElements) :
    Within base next.document := by
  cases h with
  | expanded hexpansions hrest hdocument hnext hevents =>
    rw [hdocument]
    exact hwithin.push rfl rfl rfl fun _ => rfl
  | @handled event fetched begun hfetch hhandles hnext hevents =>
    have hfetched : Within base fetched.document := by
      obtain hsame | ⟨text, htext⟩ := fetch_document hfetch
      · exact hsame ▸ hwithin
      · exact htext ▸ hwithin.addText text
    exact hfetched.handles hhandles hstays

theorem Passes.grown {earlier : List Recording} (h : Passes setting stage next)
    (hgrown : Grown earlier stage.document.recordings)
    (hlength : earlier.length ≤ next.document.recordings.length) :
    Grown earlier next.document.recordings := by
  cases h with
  | expanded hexpansions hrest hdocument hnext hevents =>
    rw [hdocument]
    exact hgrown
  | handled hfetch hhandles hnext hevents =>
    obtain ⟨hrecordings, -⟩ := fetch_archive hfetch
    exact hhandles.grown (hrecordings ▸ hgrown) hlength

variable {embed : Option (Embedding α)}

/-- No step closes what was open before, since the layout stays on top of it. -/
theorem within_of_runs {first : Stage α} {held : List Held} {expanding last : List String} {depth : Nat}
    (h : Runs setting embed (.ok first) (.ok stage))
    (hsound : Sound base.openElements held expanding depth last first)
    (hheld : held.countP Held.defines = base.recordings.length) (hwithin : Within base first.document)
    (hgrown : Grown base.recordings first.document.recordings) :
    Within base stage.document ∧ Grown base.recordings stage.document.recordings := by
  have hall : Sound base.openElements held expanding depth last stage ∧ Within base stage.document ∧
      Grown base.recordings stage.document.recordings := by
    refine h.induction (P := fun stage => Sound base.openElements held expanding depth last stage ∧
      Within base stage.document ∧ Grown base.recordings stage.document.recordings)
      ⟨hsound, hwithin, hgrown⟩ fun current next ⟨hcurrent, hinside, hrecorded⟩ hpasses => ?_
    have hnext := hcurrent.passes hpasses
    refine ⟨hnext, hpasses.within hinside hnext.layout.exists_append, hpasses.grown hrecorded ?_⟩
    rw [← hheld]
    exact hnext.layout.countP_le_length
  exact hall.2

/-- Drawing an element leaves everything that elements share as it has been, at whatever stage of a document
    it is drawn. -/
theorem restores_of_isElement {stage : Stage α} {events subtree : List MarkupEvent} {after : Drawing α}
    (hevents : (Tag.openAfter [] (MarkupEvent.tags events)).isSome = true)
    (hreached : Reached setting embed events stage) (hroot : stage.document.rootSeen = true)
    (hsubtree : MarkupEvent.IsElement subtree)
    (h : Draw.events setting embed subtree stage.drawing = (.ok (), after)) :
    Restores stage.document after.document := by
  obtain ⟨last, hlast⟩ := Option.isSome_iff_exists.1 hevents
  have hsound := hreached.sound hlast
  obtain ⟨held, hheld, hfirst⟩ := hsound.resume (hsubtree.openAfter [])
  have hruns := runs_of_events_ok [] hsound.registered h
  rw [List.append_nil] at hruns
  obtain ⟨hwithin, hgrown⟩ := within_of_runs hruns hfirst hheld (Within.refl hroot) (.refl _)
  have hend := hfirst.runs hruns
  obtain ⟨helements, hlength⟩ := hend.layout.finish rfl rfl
  exact hwithin.restores helements (hgrown.eq_of_length (hlength.trans hheld)) hend.counts.expanding
    (hend.counts.replayDepth.trans (Nat.zero_add _))

/-- A group with a definition and a use of it leaves a drawing as it has been at the root. -/
theorem restores_of_group :
    let opened := (Draw.events Exact.setting none [Exact.root] (.initial Exact.setting {})).2
    Reached Exact.setting none (Exact.root :: Exact.group) ⟨opened, [], Exact.group⟩ ∧
      opened.document.rootSeen = true ∧
      Restores opened.document (Draw.events Exact.setting none Exact.group opened).2.document := by
  have hroot : (Draw.events Exact.setting none [Exact.root] (.initial Exact.setting {})).1.isOk = true := by
    decide +kernel
  have hseen : (Draw.events Exact.setting none [Exact.root]
      (.initial Exact.setting {})).2.document.rootSeen = true := by
    decide +kernel
  have hgroup : (Draw.events Exact.setting none Exact.group
      (Draw.events Exact.setting none [Exact.root] (.initial Exact.setting {})).2).1.isOk = true := by
    decide +kernel
  have hreached : Reached Exact.setting none (Exact.root :: Exact.group) ⟨_, [], Exact.group⟩ :=
    .of_events (Draw.eq_ok hroot)
  exact ⟨hreached, hseen,
    restores_of_isElement rfl hreached hseen Exact.group_isElement (Draw.eq_ok hgroup)⟩

end Stage

end SvgPage
