import SvgPage.Proofs.Exact
import SvgPage.Proofs.Traversal.Conversion

namespace SvgPage

open Document

variable {α : Type} [Scalar α] {setting : Setting α} {levels : Nat}

/-- Uses nest to the limit at most. -/
theorem Stage.Passes.length_le {stage next : Stage α} (h : Passes setting stage next)
    (hlevels : setting.options.nesting.levels = some levels) (hcounts : Counts [] 0 stage)
    (hlength : stage.expansions.length ≤ levels) : next.expansions.length ≤ levels := by
  cases h with
  | expanded hexpansions hrest hdocument hnext hevents =>
    rw [hexpansions, List.length_cons] at hlength
    rw [hnext]
    omega
  | @handled _ fetched begun hfetch hhandles hnext hevents =>
    obtain ⟨hstanding, hids⟩ := fetch_standing hfetch
    have hcount := congrArg List.length hids
    rw [List.length_map, List.length_map] at hcount
    rw [hnext, List.length_append, hcount]
    cases begun with
    | none =>
      rw [Option.toList_none, List.length_nil, Nat.zero_add]
      exact hlength
    | some expansion =>
      obtain ⟨-, hlimit⟩ := hhandles.expands
      have hexpanding : fetched.document.expanding = stage.document.expanding :=
        congrArg Standing.expanding hstanding
      rw [hexpanding, hcounts.expanding, List.append_nil, List.length_map, NestingLimit.isReached, hlevels,
        Option.any_some, decide_eq_false_iff_not] at hlimit
      rw [Option.toList_some, List.length_singleton]
      omega

namespace Activation

/-- A document in a conversion with a limit: it lies no deeper than the limit, uses nest in it no deeper
    than that, and they are counted. -/
structure Limited (levels : Nat) (activation : Activation α) : Prop where
  limit : activation.setting.options.nesting.levels = some levels
  depth : activation.setting.depth ≤ levels
  counts : activation.stage.Counts [] 0
  registered : activation.stage.document.Registered
  expansions : activation.stage.expansions.length ≤ levels

variable {errorLine : Option Nat} {stage next : Stage α}

theorem Limited.passes (h : Limited levels ⟨setting, errorLine, stage⟩)
    (hpasses : Stage.Passes setting stage next) : Limited levels ⟨setting, errorLine, next⟩ where
  limit := h.limit
  depth := h.depth
  counts := h.counts.passes hpasses
  registered := hpasses.registered h.counts h.registered
  expansions := hpasses.length_le h.limit h.counts h.expansions

theorem Limited.initial (hlimit : setting.options.nesting.levels = some levels)
    (hdepth : setting.depth ≤ levels) (errorLine : Option Nat) (ledger : Ledger α)
    (events : List MarkupEvent) : Limited levels ⟨setting, errorLine, .initial setting ledger events⟩ where
  limit := hlimit
  depth := hdepth
  counts := ⟨rfl, rfl⟩
  registered := .initial setting
  expansions := Nat.zero_le _

end Activation

namespace Conversion

/-- All documents of a conversion keep to its limit. -/
def Limited (levels : Nat) (conversion : Conversion α) : Prop :=
  ∀ activation ∈ conversion.activations, activation.Limited levels

theorem limited_enter (hlimit : setting.options.nesting.levels = some levels)
    (hdepth : setting.depth ≤ levels) (markup : String) (ledger : Ledger α) {waiting : List (Waiting α)}
    (hwaiting : ∀ outer ∈ waiting, outer.activation.Limited levels) :
    (enter setting markup ledger waiting).Limited levels :=
  List.forall_mem_cons.2 ⟨.initial hlimit hdepth _ _ _, List.forall_mem_map.2 hwaiting⟩

omit [Scalar α] in
/-- A document goes on as it has been left. -/
theorem limited_deliver {waiting : List (Waiting α)}
    (hwaiting : ∀ outer ∈ waiting, outer.activation.Limited levels)
    (result : Except (Failure α) (DocumentTree α) × Ledger α) : (deliver waiting result).Limited levels := by
  obtain ⟨result, ledger⟩ := result
  cases result with
  | error failure => exact List.forall_mem_nil _
  | ok tree =>
    cases waiting with
    | nil => exact List.forall_mem_nil _
    | cons innermost outer =>
      obtain ⟨hinnermost, houter⟩ := List.forall_mem_cons.1 hwaiting
      refine List.forall_mem_cons.2 ⟨?_, List.forall_mem_map.2 houter⟩
      exact ⟨hinnermost.limit, hinnermost.depth,
        ⟨hinnermost.counts.expanding, hinnermost.counts.replayDepth⟩, hinnermost.registered.push _,
        hinnermost.expansions⟩

theorem Limited.step {conversion : Conversion α} (h : conversion.Limited levels) :
    conversion.step.Limited levels := by
  cases conversion with
  | finished result => exact h
  | drawing current waiting =>
    obtain ⟨setting, errorLine, stage⟩ := current
    obtain ⟨hcurrent, hwaiting⟩ := List.forall_mem_cons.1 h
    have hwaiting := List.forall_mem_map.1 hwaiting
    rw [Conversion.step]
    cases hstep : stage.step setting with
    | next next =>
      have hresolve : (stage.step setting).resolve none = some (.ok next) := by
        rw [hstep]
        rfl
      have hnext := hcurrent.passes (Stage.step_passes hresolve)
      exact List.forall_mem_cons.2 ⟨hnext, List.forall_mem_map.2 hwaiting⟩
    | embedding inner markup outer element =>
      obtain ⟨hdepth, hoptions, hlimit⟩ := Stage.step_embedding hstep
      -- What waits differs from what a conversion without embedded documents goes on with only in the image.
      have hresolve : (stage.step setting).resolve none =
          some (.ok (outer.resume outer.drawing.ledger outer.drawing.embedded element)) := by
        rw [hstep]
        rfl
      have hresumed := hcurrent.passes (Stage.step_passes hresolve)
      have houter : Activation.Limited levels ⟨setting, errorLine, outer⟩ :=
        ⟨hcurrent.limit, hcurrent.depth, ⟨hresumed.counts.expanding, hresumed.counts.replayDepth⟩,
          ⟨hresumed.registered.replayDepth, hresumed.registered.nodup, hresumed.registered.expanding,
            hresumed.registered.recordings⟩, hresumed.expansions⟩
      refine limited_enter ?_ ?_ markup outer.drawing.ledger (List.forall_mem_cons.2 ⟨houter, hwaiting⟩)
      · rw [hoptions]
        exact hcurrent.limit
      · rw [NestingLimit.documentLevels, hcurrent.limit, Option.getD_some] at hlimit
        omega
    | failed failure ledger => exact List.forall_mem_nil _
    | ended => exact limited_deliver hwaiting _

theorem Limited.iterate {conversion : Conversion α} (h : conversion.Limited levels) (steps : Nat) :
    (Conversion.step^[steps] conversion).Limited levels := by
  induction steps with
  | zero => exact h
  | succ steps ih =>
    rw [Function.iterate_succ_apply']
    exact ih.step

/-- A conversion with a finite limit ends, with the result of drawing its document as a whole. On the way
    all documents in it keep to the limit: uses and documents nest no deeper, the uses that are being
    expanded are counted, and none of them is expanded inside itself. After an event of a document, whether
    it has failed or not, no use is being expanded. -/
theorem conversion_ends {limit : α} (hfinite : Scalar.isFinite limit = true)
    (hlimit : setting.options.nesting = .ofNumber limit) (hdepth : setting.depth = 0)
    (markup : String) (ledger : Ledger α) :
    (∃ steps, Conversion.step^[steps] (enter setting markup ledger []) =
        finished (convertDocument setting markup ledger)) ∧
      (∀ steps, ∀ activation ∈ (Conversion.step^[steps] (enter setting markup ledger [])).activations,
        let document := activation.stage.document
        let levels := if 0 < limit then Scalar.ceilNat limit else 0
        document.replayDepth = document.expanding.length ∧
          document.expanding = activation.stage.expansions.map Expansion.id ∧ document.expanding.Nodup ∧
          document.expanding.length ≤ levels ∧ activation.setting.depth ≤ levels) ∧
      ∀ (inner : Setting α) embed events ledger,
        let document := (Draw.events inner embed events (.initial inner ledger)).2.document
        document.replayDepth = 0 ∧ document.expanding = [] := by
  refine ⟨convertDocument_leads setting markup ledger, fun steps activation hmem => ?_,
    fun inner embed events ledger => ?_⟩
  · have hlevels : setting.options.nesting.levels = some (if 0 < limit then Scalar.ceilNat limit else 0) := by
      rw [hlimit]
      exact if_pos hfinite
    have houtermost : setting.depth ≤ if 0 < limit then Scalar.ceilNat limit else 0 := by
      rw [hdepth]
      exact Nat.zero_le _
    have hentered := limited_enter hlevels houtermost markup ledger (List.forall_mem_nil _)
    have hactivation := hentered.iterate steps activation hmem
    have hexpanding := hactivation.counts.expanding
    rw [List.append_nil] at hexpanding
    refine ⟨hactivation.registered.replayDepth, hexpanding, hactivation.registered.nodup, ?_,
      hactivation.depth⟩
    rw [hexpanding, List.length_map]
    exact hactivation.expansions
  · have hkept : Keeps (.initial inner) (Draw.events inner embed events (.initial inner ledger)).2.document :=
      Draw.keepsAt_events embed events (.initial inner ledger) (.initial inner)
    have hexpanding := hkept.expanding
    have hreplay := hkept.registered.replayDepth
    rw [hexpanding] at hreplay
    exact ⟨hreplay, hexpanding⟩

/-- A document ends that has nothing but its root. -/
theorem conversion_ends_exact :
    Scalar.isFinite (2 : Rat) = true ∧ Exact.setting.options.nesting = .ofNumber (2 : Rat) ∧
      Exact.setting.depth = 0 ∧
      ∃ steps, Conversion.step^[steps] (enter Exact.setting "<svg/>" {} []) =
        finished (convertDocument Exact.setting "<svg/>" {}) :=
  ⟨rfl, rfl, rfl, (conversion_ends rfl rfl rfl "<svg/>" {}).1⟩

end Conversion

end SvgPage
