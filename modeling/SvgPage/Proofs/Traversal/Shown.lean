import SvgPage.Proofs.Exact
import SvgPage.Proofs.Traversal.Embeds

namespace SvgPage

open Document

variable {α : Type} [Scalar α]

theorem Canvas.readAll_of_isPrefix {resources others : List (Resource α)} {canvas last : Canvas α}
    {operators : List (Operator α)} (hmore : resources <+: others)
    (h : canvas.readAll resources operators = some last) : canvas.readAll others operators = some last :=
  ((Reads.of_readAll h fun _ _ => trivial).of_isPrefix hmore).readAll

namespace Stage

/-- What has been registered up to a stage. -/
def resources (stage : Stage α) : List (Resource α) := stage.drawing.ledger.resources.toList

/-- What a reader of all that a stage has written comes to. -/
def canvas? (stage : Stage α) : Option (Canvas α) :=
  Canvas.initial.readAll stage.resources stage.document.output.toList

/-- A reader of all that a stage has written comes to a canvas that fits the document. -/
structure Shown (setting : Setting α) (stage : Stage α) (canvas : Canvas α) : Prop where
  canvas_eq : stage.canvas? = some canvas
  layered : Layered setting.pageHeight stage.document canvas

variable {setting : Setting α} {embed : Option (Embedding α)} {events : List MarkupEvent}
  {stage next : Stage α} {canvas : Canvas α}

/-- What is asked of an operator that the next step writes. -/
def concern (setting : Setting α) (stage : Stage α) (operator : Operator α) (actual : GraphicsState α) : Prop :=
  ∃ event fetched, stage.fetch = some (event, fetched) ∧
    (stage.document.concern setting event).holds operator actual

omit [Scalar α] in
/-- The text in front of an event changes neither the frame nor the gradients. -/
theorem fetch_frame {fetched : Stage α} {event : MarkupEvent} (h : stage.fetch = some (event, fetched)) :
    fetched.document.frame = stage.document.frame ∧
      fetched.document.gradients = stage.document.gradients ∧
      fetched.document.output = stage.document.output := by
  obtain hsame | ⟨text, htext⟩ := fetch_document h
  · rw [hsame]
    exact ⟨rfl, rfl, rfl⟩
  · rw [htext]
    exact ⟨congrArg Scope.frame (addText_scope _ text), addText_gradients _ text, addText_output _ text⟩

variable [Scalar.Comparable α]

/-- What a step writes leads from one canvas to the next one, and all operators are as they are asked to be. -/
theorem Shown.step (h : Shown setting stage canvas) (hembed : ∀ embed' ∈ embed, embed'.Extends)
    (hdocument : MarkupEvent.IsDocument events) (hplaced : Placed events stage)
    (hstep : (stage.step setting).resolve embed = some (.ok next)) :
    ∃ operators last, next.document.output.toList = stage.document.output.toList ++ operators ∧
      Reads next.resources (stage.concern setting) canvas operators last ∧ Shown setting next last := by
  have hextends : stage.resources <+: next.resources := step_extends hembed hstep
  have hbefore := Canvas.readAll_of_isPrefix hextends h.canvas_eq
  have hshown {operators : List (Operator α)} {last : Canvas α}
      (houtput : next.document.output.toList = stage.document.output.toList ++ operators)
      (hreads : Reads next.resources (stage.concern setting) canvas operators last)
      (hlast : Layered setting.pageHeight next.document last) : Shown setting next last := by
    refine ⟨?_, hlast⟩
    rw [canvas?, houtput, Canvas.readAll_append, hbefore]
    exact hreads.readAll
  obtain ⟨expansion, outer, hexpansions, -, hnext⟩ | ⟨event, fetched, hfetch, hturns⟩ := step_turns hembed hstep
  · have hdocument' : next.document = (stage.document.endExpansion expansion.id).push expansion.element :=
      congrArg Drawing.document hnext
    have houtput : next.document.output.toList = stage.document.output.toList ++ [] := by
      rw [hdocument', List.append_nil]
      rfl
    obtain ⟨hroot, hinside⟩ := hplaced.openElements_ne_nil (hexpansions ▸ List.cons_ne_nil _ _)
    have hlast : Layered setting.pageHeight next.document canvas := by
      rw [hdocument']
      exact .inside hroot (.shares rfl rfl (h.layered.layers hinside))
    exact ⟨[], canvas, houtput, .nil, hshown houtput .nil hlast⟩
  · have hstanding := (fetch_standing hfetch).1
    have hroot : fetched.document.rootSeen = stage.document.rootSeen := congrArg Standing.rootSeen hstanding
    have helements : fetched.document.openElements = stage.document.openElements :=
      congrArg Standing.openElements hstanding
    obtain ⟨hframe, hgradients, hwritten⟩ := fetch_frame hfetch
    have hlayered := h.layered.of_eq hroot helements hframe
    obtain ⟨operators, last, houtput, hreads, hlast⟩ := hturns.layered hlayered (List.prefix_refl _) (by
      intro name attributes hevent hseen
      change fetched.document.openElements ≠ []
      rw [helements]
      exact (hplaced.startTag hdocument (hevent ▸ hfetch)).2 (hroot ▸ hseen))
    have houtput : next.document.output.toList = stage.document.output.toList ++ operators := by
      rw [← hwritten]
      exact houtput
    have hreads : Reads next.resources (stage.concern setting) canvas operators last :=
      hreads.mono fun operator actual hholds =>
        ⟨event, fetched, hfetch, concern_congr hframe hgradients operator actual hholds⟩
    exact ⟨operators, last, houtput, hreads, hshown houtput hreads hlast⟩

/-- Wherever a step writes an operator, a reader of all before it comes to the graphics state that is asked
    for. -/
theorem Shown.exists_canvas (h : Shown setting stage canvas) (hembed : ∀ embed' ∈ embed, embed'.Extends)
    (hdocument : MarkupEvent.IsDocument events) (hplaced : Placed events stage)
    (hstep : (stage.step setting).resolve embed = some (.ok next)) :
    ∃ operators, next.document.output.toList = stage.document.output.toList ++ operators ∧
      ∀ first operator second, operators = first ++ operator :: second →
        ∃ canvas, Canvas.initial.readAll next.resources (stage.document.output.toList ++ first) = some canvas ∧
          stage.concern setting operator canvas.state := by
  obtain ⟨operators, last, houtput, hreads, -⟩ := h.step hembed hdocument hplaced hstep
  refine ⟨operators, houtput, ?_⟩
  rintro first operator second rfl
  obtain ⟨before, hbefore, hconcern⟩ := hreads.exists_state
  have hextends : stage.resources <+: next.resources := step_extends hembed hstep
  refine ⟨before, ?_, hconcern⟩
  rw [Canvas.readAll_append, Canvas.readAll_of_isPrefix hextends h.canvas_eq]
  exact hbefore

omit [Scalar.Comparable α] in
theorem Shown.initial (setting : Setting α) (ledger : Ledger α) (events : List MarkupEvent) :
    Shown setting (.initial setting ledger events) .initial :=
  ⟨rfl, .outside rfl fun _ => ⟨rfl, rfl⟩⟩

/-- All that a document writes up to any of its stages can be read, and what the reader comes to fits. -/
theorem Reached.shown (h : Reached setting embed events stage) (hembed : ∀ embed' ∈ embed, embed'.Extends)
    (hdocument : MarkupEvent.IsDocument events) : Placed events stage ∧ ∃ canvas, Shown setting stage canvas := by
  obtain ⟨ledger, hruns⟩ := h
  have hall : Sound [] [] [] 0 [] stage ∧ Placed events stage ∧ ∃ canvas, Shown setting stage canvas := by
    refine hruns.induction_step (P := fun stage =>
        Sound [] [] [] 0 [] stage ∧ Placed events stage ∧ ∃ canvas, Shown setting stage canvas)
      ⟨.initial ledger hdocument.openAfter, .initial setting ledger events, _,
        .initial setting ledger events⟩
      fun stage next ⟨hsound, hplaced, canvas, hshown⟩ hstep => ?_
    have hpasses := step_passes hstep
    obtain ⟨operators, last, -, -, hlast⟩ := hshown.step hembed hdocument hplaced hstep
    exact ⟨hsound.passes hpasses, hplaced.passes hdocument hsound hpasses, last, hlast⟩
  exact hall.2

end Stage

namespace Stage

variable [Scalar.Comparable α] {setting : Setting α} {levels : Nat}
  {events : List MarkupEvent} {stage : Stage α}

/-- Between the events of a well-formed document, while its root is open, the graphics state in force has the
    opacity and the blend mode of the frame. Wherever an event paints, the one in force has the alphas and
    the blend mode that the event intends, whether an operator has been written to set them or not. -/
theorem covers_of_reached (hdocument : MarkupEvent.IsDocument events)
    (hreached : Reached setting (Embedding.nested levels) events stage) :
    (stage.document.openElements ≠ [] →
      ∃ canvas, stage.canvas? = some canvas ∧
        Scalar.Agrees stage.document.frame.opacity canvas.state.fillAlpha ∧
        Scalar.Agrees stage.document.frame.opacity canvas.state.strokeAlpha ∧
        canvas.state.blendMode = stage.document.frame.blendMode) ∧
    ∀ next, (stage.step setting).resolve (Embedding.nested levels) = some (.ok next) →
      ∃ operators, next.document.output.toList = stage.document.output.toList ++ operators ∧
        ∀ first operator second, operators = first ++ operator :: second → operator.isPainting = true →
          ∃ event fetched canvas intended, stage.fetch = some (event, fetched) ∧
            Canvas.initial.readAll next.resources (stage.document.output.toList ++ first) = some canvas ∧
            stage.document.Intends setting event intended ∧ intended.Covers canvas.state := by
  obtain ⟨hplaced, canvas, hshown⟩ := hreached.shown (nested_extends levels) hdocument
  constructor
  · intro hinside
    obtain ⟨hfill, hstroke, hblend⟩ := (hshown.layered.layers hinside).realizes.covers
    exact ⟨canvas, hshown.canvas_eq, hfill, hstroke, hblend⟩
  · intro next hstep
    obtain ⟨operators, houtput, hcanvas⟩ :=
      hshown.exists_canvas (nested_extends levels) hdocument hplaced hstep
    refine ⟨operators, houtput, fun first operator second hsplit hpainting => ?_⟩
    obtain ⟨before, hbefore, event, fetched, hfetch, hholds, -⟩ := hcanvas first operator second hsplit
    obtain ⟨intended, hintends, hcovers⟩ := hholds hpainting
    exact ⟨event, fetched, before, intended, hfetch, hbefore, hintends, hcovers⟩

/-- Inside a group the graphics state in force has the opacity of the group. -/
theorem covers_in_group :
    let drawing := (Draw.events Exact.setting none [Exact.root, Exact.veil] (.initial Exact.setting {})).2
    ∃ canvas, canvas? ⟨drawing, [], Exact.veiled⟩ = some canvas ∧
      Scalar.Agrees drawing.document.frame.opacity canvas.state.fillAlpha := by
  have hok : (Draw.events Exact.setting none [Exact.root, Exact.veil]
      (.initial Exact.setting {})).1.isOk = true := by
    decide +kernel
  have hinside : (Draw.events Exact.setting none [Exact.root, Exact.veil]
      (.initial Exact.setting {})).2.document.openElements.length = 2 := by
    decide +kernel
  have hreached : Reached Exact.setting (Embedding.nested 0) ([Exact.root, Exact.veil] ++ Exact.veiled)
      ⟨_, [], Exact.veiled⟩ := .of_events (Draw.eq_ok hok)
  obtain ⟨canvas, hcanvas, hfill, -⟩ := (covers_of_reached Exact.veiled_isDocument hreached).1
    (List.ne_nil_of_length_eq_add_one hinside)
  exact ⟨canvas, hcanvas, hfill⟩

end Stage

end SvgPage
