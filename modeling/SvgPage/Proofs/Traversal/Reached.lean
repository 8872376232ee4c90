import SvgPage.Proofs.Traversal.Layout
import SvgPage.Proofs.Traversal.Run

namespace SvgPage

open Document

variable {α : Type} [Scalar α] {setting : Setting α} {embed : Option (Embedding α)}

namespace Stage

/-- What holds of the stages of matching events, on top of elements that were open, recordings that had
    begun, and uses that were being expanded before them. -/
structure Sound (ground : List (OpenElement α)) (held : List Held) (expanding : List String) (depth : Nat)
    (last : List String) (stage : Stage α) : Prop where
  layout : Layout ground held last stage
  holdsElements : HoldsElements stage.document.definitions
  counts : Counts expanding depth stage
  registered : stage.document.Registered

variable {ground : List (OpenElement α)} {held : List Held} {expanding last : List String} {depth : Nat}
  {stage first next : Stage α} {events : List MarkupEvent}

theorem Sound.passes (hsound : Sound ground held expanding depth last stage)
    (h : Passes setting stage next) : Sound ground held expanding depth last next := by
  obtain ⟨hlayout, hholds⟩ := h.layout hsound.layout hsound.counts hsound.holdsElements
  exact ⟨hlayout, hholds, hsound.counts.passes h, h.registered hsound.counts hsound.registered⟩

theorem Sound.runs (hsound : Sound ground held expanding depth last first)
    (h : Runs setting embed (.ok first) (.ok stage)) : Sound ground held expanding depth last stage :=
  Runs.induction h hsound fun _ _ hstage hpasses => hstage.passes hpasses

theorem Sound.initial (ledger : Ledger α) (hevents : Tag.openAfter [] (MarkupEvent.tags events) = some last) :
    Sound [] [] [] 0 last (.initial setting ledger events) where
  layout := .direct [] rfl rfl hevents .nil
  holdsElements := fun id tags hget => by cases hget
  counts := ⟨rfl, rfl⟩
  registered := .initial setting

theorem Reached.sound (h : Reached setting embed events stage)
    (hevents : Tag.openAfter [] (MarkupEvent.tags events) = some last) : Sound [] [] [] 0 last stage := by
  obtain ⟨ledger, hruns⟩ := h
  exact (Sound.initial ledger hevents).runs hruns

theorem Reached.trans (h : Reached setting embed events first)
    (hruns : Runs setting embed (.ok first) (.ok stage)) : Reached setting embed events stage :=
  h.imp fun _ hfirst => hfirst.trans hruns

/-- Uses are counted right whatever the events are. -/
theorem Reached.counts (h : Reached setting embed events stage) :
    Counts [] 0 stage ∧ stage.document.Registered := by
  obtain ⟨ledger, hruns⟩ := h
  have hinitial : Counts [] 0 (.initial setting ledger events) := ⟨rfl, rfl⟩
  exact hruns.induction (P := fun stage => Counts [] 0 stage ∧ stage.document.Registered)
    ⟨hinitial, .initial setting⟩ fun _ _ ⟨hcounts, hregistered⟩ hpasses =>
      ⟨hcounts.passes hpasses, hpasses.registered hcounts hregistered⟩

omit [Scalar α] in
/-- Other events may be handled at a stage, on top of all that is there. -/
theorem Sound.resume (hsound : Sound ground held expanding depth last stage) {last : List String}
    (hevents : Tag.openAfter [] (MarkupEvent.tags events) = some last) :
    ∃ held, held.countP Held.defines = stage.document.recordings.length ∧
      Sound stage.document.openElements held stage.document.expanding stage.document.replayDepth last
        ⟨stage.drawing, [], events⟩ := by
  obtain ⟨held, htracks⟩ : ∃ held, Tracks [] held stage.document.recordings := by
    cases hsound.layout with
    | direct opened hexpansions helements hnames htracks => exact ⟨_, htracks⟩
    | replayed opened name recorded defines helements hnames htracks => exact ⟨_, htracks⟩
  exact ⟨held, htracks.length_eq.symm, .direct [] rfl rfl hevents htracks, hsound.holdsElements,
    ⟨rfl, (Nat.zero_add _).symm⟩, hsound.registered⟩

/-- A drawing whose events do not fail passes only stages. -/
theorem runs_of_events_ok {drawing after : Drawing α} (rest : List MarkupEvent)
    (hregistered : drawing.document.Registered)
    (h : Draw.events setting embed events drawing = (.ok (), after)) :
    Runs setting embed (.ok ⟨drawing, [], events ++ rest⟩) (.ok ⟨after, [], rest⟩) := by
  have hruns : Runs setting embed _ (outcome [] rest (Draw.events setting embed events drawing)) :=
    events_runs events rest drawing hregistered
  rwa [h] at hruns

theorem Reached.of_events {before after : List MarkupEvent} {ledger : Ledger α} {drawing : Drawing α}
    (h : Draw.events setting embed before (.initial setting ledger) = (.ok (), drawing)) :
    Reached setting embed (before ++ after) ⟨drawing, [], after⟩ :=
  ⟨ledger, runs_of_events_ok after (.initial setting) h⟩

end Stage

end SvgPage
