import SvgPage.Proofs.Drawing.Outlined
import SvgPage.Proofs.Element.Moved
import SvgPage.Proofs.Traversal.Transforms
import SvgPage.Proofs.Traversal.Unlinked

namespace SvgPage

open Attributes Document

variable {α : Type} [Scalar α]

theorem Style.leaves_movingAttributes : Style.Leaves Use.movingAttributes where
  style := by decide
  fontSize := by decide
  text property := by cases property <;> decide
  number property := by cases property <;> decide

namespace Document

variable (setting : Setting α) (document : Document α)

/-- Groups that differ in what moves them differ in the map of their content. -/
theorem openGroup_frame {other : Document α} (hframe : other.frame = document.frame) {first second : Attributes}
    (h : AgreeOutside Use.movingAttributes first second) (ledger another : Ledger α) :
    (other.openGroup setting first ledger).1.1.frame =
      { (document.openGroup setting second another).1.1.frame with
        ctm := document.frame.ctm.multiply first.transform } := by
  have hstyle := h.resolve_eq Style.leaves_movingAttributes document.frame.style setting.options.dpi
  simp only [openGroup, bind_apply, pure_apply, enter, Document.write, hframe, hstyle, read_transform]

/-- What a shape is painted with is found in the frame and the gradients of a document. -/
theorem paintsShape_congr {other : Document α} (hframe : other.frame = document.frame)
    (hgradients : other.gradients = document.gradients) :
    other.paintsShape setting = document.paintsShape setting := by
  funext style path
  simp only [paintsShape, fillOf, strokeOf, hframe, ResolvedPaint.read_congr hgradients]

end Document

namespace Stage

/-- The next event of a stage is the start tag of a `use` to be drawn, the reference of which leads to an element
    that has been recorded. -/
structure Follows (setting : Setting α) (stage fetched : Stage α) (use : String) (attributes : Attributes)
    (id name : String) (own : Attributes) (leadingText : String) (rest : List DefinitionEvent) : Prop where
  fetch : stage.fetch = some (.startTag use attributes, fetched)
  isUse : ElementKind.ofName use = .use
  rootSeen : fetched.document.rootSeen = true
  isDrawing : fetched.document.isDrawing = true
  found : fetched.document.findUse? attributes = some (id, .complete (.startTag name own leadingText :: rest))
  otherId : attributes.get? "id" ≠ some id
  notExpanding : id ∉ fetched.document.expanding
  notReached : setting.options.nesting.isReached fetched.document.expanding.length = false

/-- An expansion that begins in a document draws in the frame of the document. -/
structure Resumes (document begun : Document α) : Prop where
  frame : begun.frame = document.frame
  gradients : begun.gradients = document.gradients
  output : begun.output = document.output
  isDrawing : begun.isDrawing = true
  rootSeen : begun.rootSeen = true
  replayDepth : 0 < begun.replayDepth

variable {setting : Setting α} {stage fetched : Stage α} {use id name leadingText : String}
  {attributes own : Attributes} {rest : List DefinitionEvent}

/-- The step at the start tag of a `use` begins an expansion. -/
theorem Follows.exists_begun (h : Follows setting stage fetched use attributes id name own leadingText rest) :
    let merged := Use.merge α name own attributes
    ∃ drawing recorded defines,
      let begun : Stage α :=
        ⟨drawing, ⟨id, .startTag merged.1 merged.2 "" :: rest, recorded, defines⟩ :: fetched.expansions,
          fetched.rest⟩
      stage.step setting = .next begun ∧ Resumes stage.document drawing.document := by
  intro merged
  have hbegun := beginTag_of_found h.isDrawing h.isUse h.found h.otherId h.notExpanding h.notReached
    fetched.drawing.ledger
  have hrecords := recordStart_records fetched.document use attributes .use
  obtain ⟨hdefinitions, hclip⟩ := hrecords.mode_eq
  obtain ⟨hframe, hgradients, houtput⟩ := fetch_frame h.fetch
  let recorded := fetched.document.recordStart use attributes .use
  refine ⟨{ fetched.drawing with document := recorded.1.beginExpansion id }, recorded.2.1, recorded.2.2, ?_, ?_⟩
  · simp only [step, h.fetch, handle, startTag, h.rootSeen, if_true, hbegun, afterBegun]
    rfl
  · refine ⟨?_, ?_, ?_, ?_, ?_, Nat.succ_pos _⟩
    · exact (congrArg Scope.frame hrecords.scope_eq).trans hframe
    · exact hrecords.gradients_eq.trans hgradients
    · exact hrecords.withholds.output.trans houtput
    · change recorded.1.isDrawing = true
      rw [Document.isDrawing, hdefinitions, hclip]
      exact h.isDrawing
    · exact (congrArg Standing.rootSeen hrecords.standing_eq).trans h.rootSeen

/-- The step at the first tag of an expansion. -/
theorem step_of_expanded {drawing : Drawing α} (hreplay : 0 < drawing.document.replayDepth)
    (hroot : drawing.document.rootSeen = true) {name : String} {attributes : Attributes}
    {document : Document α} {closing : Closing α} {ledger : Ledger α}
    (hopened : drawing.document.openElement setting (.ofName name) attributes drawing.ledger =
      ((document, .element closing), ledger))
    (id : String) (rest : List DefinitionEvent) (recorded defines : Bool) (outer : List Expansion)
    (events : List MarkupEvent) :
    step setting ⟨drawing, ⟨id, .startTag name attributes "" :: rest, recorded, defines⟩ :: outer, events⟩ =
      .next ⟨{ drawing with document := document.push ⟨closing, false, false⟩, ledger },
        ⟨id, rest, recorded, defines⟩ :: outer, events⟩ := by
  have hbegun : drawing.document.beginTag setting name attributes drawing.ledger =
      ((document, ⟨.element closing, false, false⟩), ledger) := by
    simp only [beginTag, recordStart_of_replaying hreplay, bind_apply, pure_apply, hopened]
  have htext : drawing.document.addText "" = drawing.document := addText_empty_of_replay hreplay
  have hstart : Stage.startTag setting ⟨drawing, ⟨id, rest, recorded, defines⟩ :: outer, events⟩ name attributes =
      .next ⟨{ drawing with document := document.push ⟨closing, false, false⟩, ledger },
        ⟨id, rest, recorded, defines⟩ :: outer, events⟩ := by
    simp only [startTag, Stage.document, hroot, if_true, hbegun, afterBegun]
    rfl
  rw [← hstart]
  simp only [step, fetch, DefinitionEvent.event, DefinitionEvent.leadingText, handle, change, Stage.document, htext]

/-- From a stage to the next one an outline is painted a number of times, and nothing else. Wherever it is built,
    the map of a reader takes it to its place. -/
def PaintsAt (stage next : Stage α) (outline placed : List (Operator α)) (copies : Nat) : Prop :=
  ∃ operators, next.document.output.toList = stage.document.output.toList ++ operators ∧
    Traces outline copies operators ∧ (copies = 0 → operators = []) ∧
    ∀ first operator second, operators = first ++ operator :: second → operator.isConstruction = true →
      ∃ canvas, Canvas.initial.readAll next.resources (stage.document.output.toList ++ first) = some canvas ∧
        outline.map (Operator.under canvas.state.matrix) = placed

/-- One stage leads to another while elements stay open. -/
def RunsInside (setting : Setting α) (embed : Option (Embedding α)) (elements : List (OpenElement α)) :
    Stage α → Stage α → Prop :=
  Relation.ReflTransGen fun stage next =>
    (stage.step setting).resolve embed = some (.ok next) ∧
      ∃ above, next.document.openElements = above ++ elements

theorem RunsInside.within {embed : Option (Embedding α)} {base : Document α} {first later : Stage α}
    (h : RunsInside setting embed base.openElements first later) (hwithin : Within base first.document) :
    Within base later.document := by
  induction h with
  | refl => exact hwithin
  | tail _ hlast ih => exact (step_passes hlast.1).within ih hlast.2

theorem RunsInside.runs {embed : Option (Embedding α)} {elements : List (OpenElement α)} {first later : Stage α}
    (h : RunsInside setting embed elements first later) : Runs setting embed (.ok first) (.ok later) := by
  induction h with
  | refl => exact .refl
  | tail _ hlast ih => exact ih.tail (.step hlast.1)

section Exact

variable [Scalar.Exact α] {levels : Nat} {events : List MarkupEvent} {next : Stage α}

/-- The map in force while elements are open. -/
theorem Reached.canvas_matrix (h : Reached setting (Embedding.nested levels) events stage)
    (hdocument : MarkupEvent.IsDocument events) (hinside : stage.document.openElements ≠ []) :
    ∃ canvas, stage.canvas? = some canvas ∧
      canvas.state.matrix = stage.document.frame.ctm.flip setting.pageHeight := by
  obtain ⟨-, canvas, hshown⟩ := h.shown (nested_extends levels) hdocument
  exact ⟨canvas, hshown.canvas_eq, (hshown.layered.layers hinside).realizes.matrix inferInstance⟩

/-- A shape is painted where the maps of the frame and of the shape take its outline. -/
theorem Reached.paintsAt (h : Reached setting (Embedding.nested levels) events stage)
    (hdocument : MarkupEvent.IsDocument events)
    (hstep : (stage.step setting).resolve (Embedding.nested levels) = some (.ok next))
    (hfetch : stage.fetch = some (.startTag name attributes, fetched)) {kind : ShapeKind}
    (hname : ElementKind.ofName name = .shape kind) {path : Path α} {operators : List (Operator α)}
    (houtput : next.document.output.toList = stage.document.output.toList ++ operators) {copies : Nat}
    (htraces : Traces (path.operators setting.pageHeight .identity) copies operators)
    (hnone : copies = 0 → operators = []) :
    PaintsAt stage next (path.operators setting.pageHeight .identity)
      (path.operators setting.pageHeight (stage.document.frame.ctm.multiply attributes.transform)) copies := by
  have hextends := nested_extends (α := α) levels
  obtain ⟨hplaced, canvas, hshown⟩ := h.shown hextends hdocument
  obtain ⟨written, hwritten, hcanvas⟩ := hshown.exists_canvas hextends hdocument hplaced hstep
  obtain rfl : written = operators := List.append_cancel_left (hwritten.symm.trans houtput)
  refine ⟨written, houtput, htraces, hnone, fun first operator second hsplit hconstruction => ?_⟩
  obtain ⟨before, hbefore, event, fetched', hfetch', -, hholds⟩ := hcanvas first operator second hsplit
  rw [hfetch] at hfetch'
  cases hfetch'
  refine ⟨before, hbefore, ?_⟩
  rw [hholds hconstruction name attributes kind rfl hname inferInstance, Path.operators_under]

section Resumed

variable {drawing : Drawing α} {merged : Attributes} {recorded defines : Bool} {outer : List Expansion}
  {after : List MarkupEvent}

/-- A group is opened in an expansion. -/
theorem Resumes.exists_group
    (h : Resumes stage.document drawing.document) (hdocument : MarkupEvent.IsDocument events)
    (hreached : Reached setting (Embedding.nested levels) events
      ⟨drawing, ⟨id, .startTag name merged "" :: rest, recorded, defines⟩ :: outer, after⟩)
    (hname : ElementKind.ofName name = .group) {element : Attributes}
    (hagree : AgreeOutside Use.movingAttributes merged element) :
    let map := stage.document.frame.ctm.multiply merged.transform
    ∃ next, step setting ⟨drawing, ⟨id, .startTag name merged "" :: rest, recorded, defines⟩ :: outer, after⟩ =
        .next next ∧ next.expansions = ⟨id, rest, recorded, defines⟩ :: outer ∧
      ∀ inner, RunsInside setting (Embedding.nested levels) next.document.openElements next inner →
        inner.document.openElements = next.document.openElements →
        (∀ ledger, inner.document.frame =
          { (stage.document.openGroup setting element ledger).1.1.frame with ctm := map }) ∧
        ∃ canvas, inner.canvas? = some canvas ∧ canvas.state.matrix = map.flip setting.pageHeight := by
  intro map
  let result := drawing.document.openGroup setting merged drawing.ledger
  have hopened : drawing.document.openElement setting (.ofName name) merged drawing.ledger =
      ((result.1.1, .element result.1.2), result.2) := by
    rw [hname, openElement_of_isDrawn h.isDrawing rfl]
    rfl
  have hstep := step_of_expanded h.replayDepth h.rootSeen hopened id rest recorded defines outer after
  have hframe (ledger : Ledger α) : result.1.1.frame =
      { (stage.document.openGroup setting element ledger).1.1.frame with ctm := map } :=
    openGroup_frame setting stage.document h.frame hagree _ ledger
  have hseen : result.1.1.rootSeen = true := by
    simp only [result, openGroup, bind_apply, pure_apply]
    exact h.rootSeen
  refine ⟨_, hstep, rfl, fun inner hruns helements => ?_⟩
  have hnext : Reached setting (Embedding.nested levels) events _ :=
    hreached.trans (.single (.step (congrArg (Progress.resolve _) hstep)))
  -- Whatever has been opened inside the group has been closed again.
  obtain ⟨-, above, habove, hunwind, -⟩ := hruns.within (Within.refl hseen)
  rw [helements, List.self_eq_append_left] at habove
  subst habove
  have hsame : inner.document.frame = result.1.1.frame := congrArg Scope.frame hunwind
  have hinside : inner.document.openElements ≠ [] := by
    rw [helements]
    exact List.cons_ne_nil _ _
  obtain ⟨canvas, hcanvas, hmatrix⟩ := (hnext.trans hruns.runs).canvas_matrix hdocument hinside
  refine ⟨fun ledger => hsame.trans (hframe ledger), canvas, hcanvas, hmatrix.trans ?_⟩
  rw [hsame, hframe drawing.ledger]

/-- A shape is painted in an expansion. -/
theorem Resumes.exists_shape
    (h : Resumes stage.document drawing.document) (hdocument : MarkupEvent.IsDocument events)
    (hreached : Reached setting (Embedding.nested levels) events
      ⟨drawing, ⟨id, .startTag name merged "" :: rest, recorded, defines⟩ :: outer, after⟩)
    {kind : ShapeKind} (hname : ElementKind.ofName name = .shape kind) :
    let style := stage.document.frame.style.resolve merged setting.options.dpi
    let context := stage.document.shapeContext setting style
    ∃ next, step setting ⟨drawing, ⟨id, .startTag name merged "" :: rest, recorded, defines⟩ :: outer, after⟩ =
        .next next ∧ next.expansions = ⟨id, rest, recorded, defines⟩ :: outer ∧
      (context.path? merged kind = none → next.document.output = stage.document.output) ∧
      ∀ path, context.path? merged kind = some path →
        ∃ copies, (0 < copies ↔ stage.document.paintsShape setting style path = true) ∧
          PaintsAt stage next (path.operators setting.pageHeight .identity)
            (path.operators setting.pageHeight (stage.document.frame.ctm.multiply merged.transform)) copies := by
  intro style context
  let begun : Stage α := ⟨drawing, ⟨id, .startTag name merged "" :: rest, recorded, defines⟩ :: outer, after⟩
  let result := drawing.document.drawShape setting kind merged drawing.ledger
  have hopened : drawing.document.openElement setting (.ofName name) merged drawing.ledger =
      ((result.1, .inert), result.2) := by
    rw [hname, openElement_of_isDrawn h.isDrawing rfl]
    rfl
  have hstep := step_of_expanded h.replayDepth h.rootSeen hopened id rest recorded defines outer after
  have hfetch : begun.fetch =
      some (.startTag name merged, ⟨drawing, ⟨id, rest, recorded, defines⟩ :: outer, after⟩) := by
    have htext : drawing.document.addText "" = drawing.document := addText_empty_of_replay h.replayDepth
    simp only [begun, fetch, DefinitionEvent.event, DefinitionEvent.leadingText, change, Stage.document, htext]
  have hcontext : drawing.document.shapeContext setting = stage.document.shapeContext setting := by
    funext style
    simp only [shapeContext, h.frame]
  obtain ⟨operators, hresult, hnone, hpath⟩ := drawing.document.drawShape_traces setting kind merged drawing.ledger
  rw [h.frame, hcontext] at hnone hpath
  rw [paintsShape_congr setting stage.document h.frame h.gradients] at hpath
  have houtput : result.1.output.toList = drawing.document.output.toList ++ operators := by
    rw [hresult]
    exact write_output ..
  refine ⟨_, hstep, rfl, fun hempty => ?_, fun path hsome => ?_⟩
  · have hsame : result.1.output = drawing.document.output := by
      rw [hresult, hnone hempty]
      rfl
    exact hsame.trans h.output
  · obtain ⟨copies, htraces, hempty, hpositive⟩ := hpath path hsome
    refine ⟨copies, hpositive, ?_⟩
    have hpaints : PaintsAt begun _ _ _ _ :=
      hreached.paintsAt hdocument (congrArg (Progress.resolve _) hstep) hfetch hname houtput htraces hempty
    rw [PaintsAt] at hpaints ⊢
    rw [← h.output, ← h.frame]
    exact hpaints

end Resumed

/-- Where the groups and shapes are drawn that a `use` refers to, with exact numbers. In place an element has
    attributes of the `use` that do not move it instead of its own, and keeps all others. The content of a group is
    drawn in the frame that it has in place, but for the map; and a shape is painted where the map takes the
    outline that it has in place. -/
theorem moves_of_reached (hdocument : MarkupEvent.IsDocument events)
    (hreached : Reached setting (Embedding.nested levels) events stage)
    (hfollows : Follows setting stage fetched use attributes id name own leadingText rest)
    (hname : ElementKind.ofName name = .group ∨ ∃ kind, ElementKind.ofName name = .shape kind)
    (hmoves : Use.MovesExactly α name own attributes) :
    let frame := stage.document.frame
    let element := Use.inPlace α name own attributes
    let x : α := Use.readOffset α attributes "x"
    let y : α := Use.readOffset α attributes "y"
    let map := frame.ctm.multiply (Use.placement (.ofName name) x y attributes.transform own.transform)
    (∀ context : ShapeContext α, context.horizontal attributes "x" = x ∧ context.vertical attributes "y" = y) ∧
    (∀ other, other ∉ Use.droppedAttributes → other ∈ Use.movingAttributes ∨ other ∉ attributes.names →
      element.get? other = own.get? other) ∧
    ∃ begun next,
      (stage.step setting).resolve (Embedding.nested levels) = some (.ok begun) ∧
      (begun.step setting).resolve (Embedding.nested levels) = some (.ok next) ∧
      (∃ recorded defines, next.expansions = ⟨id, rest, recorded, defines⟩ :: fetched.expansions) ∧
      (ElementKind.ofName name = .group →
        ∀ inner, RunsInside setting (Embedding.nested levels) next.document.openElements next inner →
          inner.document.openElements = next.document.openElements →
          (∀ ledger, inner.document.frame =
            { (stage.document.openGroup setting element ledger).1.1.frame with ctm := map }) ∧
          ∃ canvas, inner.canvas? = some canvas ∧ canvas.state.matrix = map.flip setting.pageHeight) ∧
      ∀ kind, ElementKind.ofName name = .shape kind →
        let style := frame.style.resolve element setting.options.dpi
        let context := stage.document.shapeContext setting style
        (context.path? element kind = none → next.document.output = stage.document.output) ∧
        ∀ path, context.path? element kind = some path →
          ∃ moved copies, context.path? (Use.merge α name own attributes).2 kind = some moved ∧
            (0 < copies ↔ stage.document.paintsShape setting style moved = true) ∧
            PaintsAt stage next (moved.operators setting.pageHeight .identity)
              (path.operators setting.pageHeight map) copies := by
  intro frame element x y map
  have hsymbol : ElementKind.ofName name ≠ .symbol := by
    obtain hgroup | ⟨kind, hshape⟩ := hname
    · rw [hgroup]
      exact ElementKind.noConfusion
    · rw [hshape]
      exact ElementKind.noConfusion
  have hagree : AgreeOutside Use.movingAttributes (Use.merge α name own attributes).2 element :=
    Use.merge_agreeOutside name own attributes
  have hmerged : (Use.merge α name own attributes).1 = name := Use.name_merge hsymbol own attributes
  have hlengths (context : ShapeContext α) :
      context.horizontal attributes "x" = x ∧ context.vertical attributes "y" = y :=
    ⟨Use.readLength_eq_readOffset (hmoves.plain "x" (by decide)) _ _,
      Use.readLength_eq_readOffset (hmoves.plain "y" (by decide)) _ _⟩
  refine ⟨hlengths, fun other hdropped h => Use.get?_inPlace hdropped h own, ?_⟩
  obtain ⟨drawing, recorded, defines, hstep, hresumes⟩ := hfollows.exists_begun
  rw [hmerged] at hstep
  have hbegun : (stage.step setting).resolve (Embedding.nested levels) = some (.ok _) :=
    congrArg (Progress.resolve _) hstep
  have hreached := hreached.trans (.single (.step hbegun))
  obtain hgroup | ⟨kind, hshape⟩ := hname
  · have hpositioned : (ElementKind.ofName name).isPositioned = false := by
      rw [hgroup]
      rfl
    have htransform := hmoves.transform_merge hpositioned hsymbol
    obtain ⟨next, hnext, hexpansions, hinside⟩ := hresumes.exists_group hdocument hreached hgroup hagree
    rw [htransform] at hinside
    refine ⟨_, next, hbegun, congrArg (Progress.resolve _) hnext, ⟨recorded, defines, hexpansions⟩,
      fun _ => hinside, fun kind hshape => ?_⟩
    rw [hgroup] at hshape
    cases hshape
  · obtain ⟨next, hnext, hexpansions, hnone, hpath⟩ := hresumes.exists_shape hdocument hreached hshape
    have hstyle := hagree.resolve_eq Style.leaves_movingAttributes stage.document.frame.style setting.options.dpi
    rw [hstyle] at hnone hpath
    refine ⟨_, next, hbegun, congrArg (Progress.resolve _) hnext, ⟨recorded, defines, hexpansions⟩,
      fun hgroup => ?_, ?_⟩
    · rw [hshape] at hgroup
      cases hgroup
    · intro kind' hkind style context
      obtain rfl : kind' = kind := ElementKind.shape.inj (hkind.symm.trans hshape)
      have houtline := hmoves.outline_merge hshape context frame.ctm setting.pageHeight
      rw [← hshape] at houtline
      refine ⟨fun hempty => hnone ?_, fun path hsome => ?_⟩
      · rw [hempty, Option.map_none, Option.map_eq_none_iff] at houtline
        exact houtline
      · rw [hsome, Option.map_some, Option.map_eq_some_iff] at houtline
        obtain ⟨moved, hmoved, hplaced⟩ := houtline
        obtain ⟨copies, hpositive, hpaints⟩ := hpath moved hmoved
        exact ⟨moved, copies, hmoved, hpositive, hplaced ▸ hpaints⟩

end Exact

/-- A group that is moved by itself is moved again by a use, and scaled after that. -/
theorem moves_group :
    let drawing := (Draw.events Exact.setting none Exact.moving (.initial Exact.setting {})).2
    ∃ begun next, (step Exact.setting ⟨drawing, [], Exact.placed⟩).resolve none = some (.ok begun) ∧
      (begun.step Exact.setting).resolve none = some (.ok next) ∧
      next.document.frame.ctm = drawing.document.frame.ctm.multiply
        ((Matrix.scaling 2 2).multiply ((Matrix.shift 3 4).multiply (.shift 1 2))) := by
  intro drawing
  have hok : (Draw.events Exact.setting none Exact.moving (.initial Exact.setting {})).1.isOk = true := by
    decide +kernel
  have hreached : Reached Exact.setting (Embedding.nested 0) (Exact.moving ++ Exact.placed)
      ⟨drawing, [], Exact.placed⟩ := .of_events (Draw.eq_ok hok)
  have hfound : drawing.document.findUse? Exact.moved =
      some ("g", .complete [.startTag "g" Exact.own "", .endTag "g" ""]) := by
    decide +kernel
  have hthree : Scalar.Prints (3 : Rat) := ⟨⟨false, 3, 0⟩, by decide +kernel, by decide +kernel, rfl⟩
  have hfour : Scalar.Prints (4 : Rat) := ⟨⟨false, 4, 0⟩, by decide +kernel, by decide +kernel, rfl⟩
  have hx : Use.readOffset Rat Exact.moved "x" = 3 := by decide +kernel
  have hy : Use.readOffset Rat Exact.moved "y" = 4 := by decide +kernel
  have hgroup : ElementKind.ofName "g" = .group := by decide
  have hother : ElementKind.ofName "g" ≠ .shape .rect := by decide
  have hfollows : Follows Exact.setting ⟨drawing, [], Exact.placed⟩ ⟨drawing, [], Exact.placed.tail⟩ "use"
      Exact.moved "g" "g" Exact.own "" [.endTag "g" ""] :=
    { fetch := rfl
      isUse := by decide
      rootSeen := by decide +kernel
      isDrawing := by decide +kernel
      found := hfound
      otherId := by decide
      notExpanding := by decide +kernel
      notReached := by decide +kernel }
  have hmoves : Use.MovesExactly Rat "g" Exact.own Exact.moved :=
    { plain := List.forall_mem_cons.2 ⟨.of_prints hthree (by decide +kernel),
        List.forall_mem_singleton.2 (.of_prints hfour (by decide +kernel))⟩
      plainOwn := fun hrect => absurd hrect hother
      prints := fun _ => List.forall_mem_cons.2 ⟨hx ▸ hthree, List.forall_mem_singleton.2 (hy ▸ hfour)⟩
      printsSum := fun hrect => absurd hrect hother
      complete := by decide +kernel }
  obtain ⟨-, -, begun, next, hbegun, hnext, -, hinside, -⟩ :=
    moves_of_reached Exact.placed_isDocument hreached hfollows (.inl hgroup) hmoves
  obtain ⟨hframe, -⟩ := hinside hgroup next .refl rfl
  refine ⟨begun, next, hbegun, hnext, ?_⟩
  rw [hframe {}]
  decide +kernel

/-- A rectangle is shifted before its own transform acts, and not after that. Other elements are not shifted by
    lengths in other units, nor behind a transform that is left open. -/
theorem moves_otherwise :
    let drawing := (Draw.events Exact.setting none
      [Exact.root, .startTag "defs" ⟨[]⟩, .startTag "rect" Exact.scaled, .endTag "rect", .endTag "defs"]
      (.initial Exact.setting {})).2
    let used := Draw.event Exact.setting none (.startTag "use" ⟨[("href", "#r"), ("x", "10")]⟩) drawing
    let outline (x : Rat) := Path.ofSegments (rectSegments x 0 5 4 0 0)
    let built := (outline 10).operators 100 .identity
    let length := Css.Length.read? "10mm" (0 : Rat) ⟨16, 96⟩
    let merged (use : Attributes) : Matrix Rat := (Use.merge Rat "line" ⟨[]⟩ use).2.transform
    used.1.isOk = true ∧
      used.2.document.output.toList = drawing.document.output.toList ++
        ([.save, .transform ((Matrix.scaling 2 2).flip 100), .fillColor (.rgb 0 0 0)] ++ built ++
          [.paint .fill, .restore]) ∧
      built.map (Operator.under ((Matrix.scaling 2 2).flip 100)) ≠
        (outline 0).operators 100 ((Matrix.shift 10 0).multiply (.scaling 2 2)) ∧
      merged ⟨[("href", "#l"), ("x", "10mm")]⟩ ≠ .shift (length.getD 0) 0 ∧
      merged ⟨[("href", "#l"), ("x", "10"), ("transform", "scale(2")]⟩ ≠
        (Transform.read "scale(2").multiply (.shift 10 0) := by
  decide +kernel

end Stage

end SvgPage
