import SvgPage.Proofs.Exact
import SvgPage.Proofs.Traversal.Shown

namespace SvgPage

open Document

variable {α : Type} [Scalar α]

namespace Closing

/-- Whether an element hands its own opacity down to its content: it has a graphics state for it, and is not
    a text. -/
def handsDownOpacity : Closing α → Bool
  | scope _ | nestedSvg _ => true
  | _ => false

/-- How the opacity inside an element follows from that around it. -/
def Fades (closing : Closing α) (outer inner : Frame α) : Prop :=
  inner.opacity =
    if closing.handsDownOpacity then outer.opacity * inner.style.number .opacity else outer.opacity

end Closing

namespace Document

variable (setting : Setting α) (document : Document α) (attributes : Attributes) (ledger : Ledger α)

theorem openGroup_fades :
    let result := (document.openGroup setting attributes ledger).1
    result.2.Fades document.frame result.1.frame := by
  simp only [openGroup, bind_apply, pure_apply]
  rfl

theorem openNestedSvg_fades :
    let result := (document.openNestedSvg setting attributes ledger).1
    result.2.Fades document.frame result.1.frame := by
  simp only [openNestedSvg, bind_apply, pure_apply]
  rfl

theorem openText_fades :
    let result := (document.openText setting attributes ledger).1
    result.2.Fades document.frame result.1.frame := by
  simp only [openText, bind_apply, pure_apply]
  rfl

theorem openSpan_fades :
    let result := (document.openSpan setting attributes ledger).1
    result.2.Fades document.frame result.1.frame := by
  rw [openSpan]
  split
  · exact openText_fades setting document attributes ledger
  · simp only [bind_apply, pure_apply]
    rfl

theorem openDrawn_fades {kind : ElementKind} (hcontainer : kind.isContainer = true) :
    let result := (document.openDrawn setting kind attributes ledger).1
    result.2.closing.Fades document.frame result.1.frame := by
  cases kind with
  | svg => exact openNestedSvg_fades setting document attributes ledger
  | group => exact openGroup_fades setting document attributes ledger
  | text => exact openText_fades setting document attributes ledger
  | span => exact openSpan_fades setting document attributes ledger
  | _ => cases hcontainer

theorem openElement_fades (kind : ElementKind) :
    let result := (document.openElement setting kind attributes ledger).1
    result.2.closing.Fades document.frame result.1.frame := by
  by_cases hdrawn : document.isDrawing = true ∧ kind.isContainer = true
  · obtain ⟨hdrawing, hcontainer⟩ := hdrawn
    rw [openElement_of_isDrawn hdrawing (ElementKind.isDrawn_of_isContainer hcontainer)]
    exact openDrawn_fades setting document attributes ledger hcontainer
  · -- What is not a container that is drawn leaves the frame as it is.
    have hopens := openElement_opens setting document attributes ledger kind
    dsimp only at hopens ⊢
    generalize (document.openElement setting kind attributes ledger).1 = result at hopens
    obtain ⟨result, opening⟩ := result
    cases hopens with
    | group frame hdrawing hprologue => exact absurd ⟨hdrawing, rfl⟩ hdrawn
    | nestedSvg frame hdrawing hprologue => exact absurd ⟨hdrawing, rfl⟩ hdrawn
    | text frame hdrawing hkind hdepth hprologue =>
      obtain rfl | ⟨rfl, -⟩ := hkind
      · exact absurd ⟨hdrawing, rfl⟩ hdrawn
      · exact absurd ⟨hdrawing, rfl⟩ hdrawn
    | span frame hdrawing htext hdepth hblock => exact absurd ⟨hdrawing, rfl⟩ hdrawn
    | _ => rfl

theorem beginTag_fades (name : String) :
    let result := (document.beginTag setting name attributes ledger).1
    result.2.opening.closing.Fades document.frame result.1.frame := by
  have hrecords := recordStart_records document name attributes (.ofName name)
  have hfades := openElement_fades setting (document.recordStart name attributes (.ofName name)).1 attributes
    ledger (.ofName name)
  have hrecorded : (document.recordStart name attributes (.ofName name)).1.frame = document.frame :=
    congrArg Scope.frame hrecords.scope_eq
  dsimp only at hfades
  rw [hrecorded] at hfades
  exact hfades

variable {setting document attributes ledger}

/-- The root has the opacity of its own style. -/
theorem openRoot_opacity {opened : Document α} {closing : Closing α} {ledger' : Ledger α}
    (h : (document.openRoot setting attributes).run ledger = (.ok (opened, closing), ledger')) :
    opened.frame.opacity = opened.frame.style.number .opacity := by
  cases hsize : rootSize setting document.frame attributes with
  | error failure =>
    simp only [openRoot, hsize] at h
    cases h
  | ok size =>
    rw [openRoot_run hsize] at h
    obtain ⟨hresult, -⟩ := Prod.mk.inj h
    obtain ⟨rfl, -⟩ := Prod.mk.inj (Except.ok.inj hresult)
    rfl

end Document

/-- The product of the opacities that open elements hand down: those of the root, of nested `svg` elements,
    and of groups of any name. Those of texts and spans do not count. -/
def scopeOpacity : List (OpenElement α) → Frame α → α
  | [], _ => 1
  | [_], frame => frame.style.number .opacity
  | element :: outer, frame =>
    let around := scopeOpacity outer (element.closing.outerFrame frame)
    if element.closing.handsDownOpacity then around * frame.style.number .opacity else around

/-- All frames, that of the document and those around the open elements, have their opacities from one
    another. -/
inductive Faded : List (OpenElement α) → Frame α → Prop
  | outside {frame} (hopacity : frame.opacity = 1) : Faded [] frame
  | root {element frame} (hopacity : frame.opacity = frame.style.number .opacity)
      (houter : (element.closing.outerFrame frame).opacity = 1) : Faded [element] frame
  | inside {element elements frame} (hinside : elements ≠ [])
      (hfades : element.closing.Fades (element.closing.outerFrame frame) frame)
      (houter : Faded elements (element.closing.outerFrame frame)) : Faded (element :: elements) frame

/-- The opacity of a frame is the product of those that are handed down to it. -/
theorem Faded.opacity_eq {elements : List (OpenElement α)} {frame : Frame α} (h : Faded elements frame) :
    frame.opacity = scopeOpacity elements frame := by
  induction h with
  | outside hopacity => exact hopacity
  | root hopacity houter => exact hopacity
  | @inside element elements frame hinside hfades houter ih =>
    obtain ⟨next, rest, rfl⟩ := List.exists_cons_of_ne_nil hinside
    rw [scopeOpacity, ← ih]
    · exact hfades
    · simp

theorem Faded.pop {element : OpenElement α} {elements : List (OpenElement α)} {frame : Frame α}
    (h : Faded (element :: elements) frame) : Faded elements (element.closing.outerFrame frame) := by
  cases h with
  | root hopacity houter => exact .outside houter
  | inside hinside hfades houter => exact houter

/-- The opacity of a document follows from its open elements. -/
def Document.Faded (document : Document α) : Prop := SvgPage.Faded document.openElements document.frame

namespace Document.Faded

variable {document result : Document α} {element : OpenElement α}

theorem of_eq (h : document.Faded) (helements : result.openElements = document.openElements)
    (hframe : result.frame = document.frame) : result.Faded := by
  rw [Document.Faded, helements, hframe]
  exact h

theorem push (h : document.Faded) (hinside : document.openElements ≠ [])
    (helements : result.openElements = document.openElements)
    (hframe : element.closing.outerFrame result.frame = document.frame)
    (hfades : element.closing.Fades document.frame result.frame) : (result.push element).Faded := by
  change SvgPage.Faded (element :: result.openElements) result.frame
  rw [helements]
  refine .inside hinside ?_ ?_
  · rwa [hframe]
  · rw [hframe]
    exact h

theorem pop {outer : List (OpenElement α)} (h : document.Faded)
    (hopen : document.openElements = element :: outer) (helements : result.openElements = outer)
    (hframe : result.frame = element.closing.outerFrame document.frame) : result.Faded := by
  rw [Document.Faded, hopen] at h
  rw [Document.Faded, helements, hframe]
  exact h.pop

end Document.Faded

theorem Turns.faded {setting : Setting α} {drawing next : Drawing α} {event : MarkupEvent}
    (h : Turns setting drawing next event) (hfaded : drawing.document.Faded)
    (houtside : drawing.document.rootSeen = false → drawing.document.openElements = [])
    (hinside : ∀ name attributes, event = .startTag name attributes → drawing.document.rootSeen = true →
      drawing.document.openElements ≠ []) :
    next.document.Faded := by
  cases h with
  | @text text hnext =>
    subst hnext
    exact hfaded.of_eq (congrArg Standing.openElements (drawing.document.addText_standing text))
      (congrArg Scope.frame (drawing.document.addText_scope text))
  | @endTag name element outer helements hnext =>
    subst hnext
    have hends := endElement_ends setting { drawing.document with openElements := outer } element name
      drawing.ledger
    exact hfaded.pop helements (congrArg Standing.openElements hends.standing_eq)
      ((congrArg Scope.frame hends.scope_eq).trans (element.closing.undo_frame _))
  | @root name attributes opened closing ledger hroot hname hopened hnext =>
    subst hnext
    obtain ⟨size, rest, -, -, rfl, hresult⟩ := openRoot_eq hopened
    have hnone := houtside hroot
    have hnone' : opened.openElements = [] := by
      rw [hresult]
      exact hnone
    rw [Document.Faded, hnone] at hfaded
    change SvgPage.Faded (_ :: opened.openElements) opened.frame
    rw [hnone']
    cases hfaded with
    | outside hopacity => exact .root (openRoot_opacity hopened) hopacity
  | @element name attributes hroot hnext =>
    obtain ⟨-, hdocument⟩ := hnext
    obtain ⟨recording, hrecords, hopens⟩ := beginTag_eq setting drawing.document name attributes drawing.ledger
    have hframe := congrArg Scope.frame (hopens.undo_scope.trans hrecords.scope_eq)
    rw [Closing.undo_frame] at hframe
    rw [hdocument]
    exact hfaded.push (hinside name attributes rfl hroot)
      (congrArg Standing.openElements (hopens.standing_eq.trans hrecords.standing_eq)) hframe
      (beginTag_fades setting drawing.document attributes drawing.ledger name)
  | @use name attributes id tags hroot hnext =>
    obtain ⟨hopening, hledger, hdocument⟩ := hnext
    obtain ⟨recording, hrecords, hopens⟩ := beginTag_eq setting drawing.document name attributes drawing.ledger
    rw [hopening] at hopens
    obtain ⟨hsame, -⟩ := hopens.expansion_inv
    rw [hdocument, hsame]
    exact hfaded.of_eq (congrArg Standing.openElements hrecords.standing_eq)
      (congrArg Scope.frame hrecords.scope_eq)

/-- The fill alpha with which an event paints where the elements around it hand down an opacity. A shape or
    an image multiplies it by its own opacity; a run of text by that of the innermost element that gives it
    a style, which is a text or a span unless a group ends the run. Shapes and text have a fill opacity
    besides, and the alpha of a color. -/
inductive Document.FillAlpha (setting : Setting α) (document : Document α) (handedDown : α) :
    MarkupEvent → α → Prop
  | shape {name attributes kind path style} (hname : ElementKind.ofName name = .shape kind)
      (hstyle : style = document.frame.style.resolve attributes setting.options.dpi)
      (hpath : (document.shapeContext setting style).path? attributes kind = some path) :
      FillAlpha setting document handedDown (.startTag name attributes)
        (handedDown * style.number .opacity * style.number .fillOpacity *
          (document.fillOf setting style path).alpha)
  | image {name attributes style} (hname : ElementKind.ofName name = .image)
      (hstyle : style = document.frame.style.resolve attributes setting.options.dpi) :
      FillAlpha setting document handedDown (.startTag name attributes) (handedDown * style.number .opacity)
  | textBefore {name attributes style alpha} (hname : ElementKind.ofName name = .span)
      (hstyle : style = document.frame.style) (halpha : style.textAlpha? = some alpha) :
      FillAlpha setting document handedDown (.startTag name attributes)
        (handedDown * style.number .opacity * style.number .fillOpacity * alpha)
  | text {name style alpha} (hstyle : style = document.frame.style)
      (halpha : style.textAlpha? = some alpha) :
      FillAlpha setting document handedDown (.endTag name)
        (handedDown * style.number .opacity * style.number .fillOpacity * alpha)

theorem Document.Intends.fillAlpha {setting : Setting α} {document : Document α} {event : MarkupEvent}
    {intended : GraphicsState α} (h : document.Intends setting event intended) :
    document.FillAlpha setting document.frame.opacity event intended.fillAlpha := by
  cases h with
  | shape hname hpath => exact .shape hname rfl hpath
  | image hname => exact .image hname rfl
  | textBefore hname halpha => exact .textBefore hname rfl halpha
  | text halpha => exact .text rfl halpha

namespace Stage

variable [Scalar.Comparable α] {setting : Setting α} {events : List MarkupEvent} {stage next : Stage α}

omit [Scalar.Comparable α] in
theorem Shown.faded {embed : Option (Embedding α)} {canvas : Canvas α} (h : Shown setting stage canvas)
    (hplaced : Placed events stage) (hdocument : MarkupEvent.IsDocument events)
    (hextends : ∀ embed' ∈ embed, embed'.Extends) (hfaded : stage.document.Faded)
    (hstep : (stage.step setting).resolve embed = some (.ok next)) : next.document.Faded := by
  obtain ⟨expansion, outer, hexpansions, -, hnext⟩ | ⟨event, fetched, hfetch, hturns⟩ :=
    step_turns hextends hstep
  · have hresult : next.document = (stage.document.endExpansion expansion.id).push expansion.element :=
      congrArg Drawing.document hnext
    obtain ⟨-, hinside⟩ := hplaced.openElements_ne_nil (hexpansions ▸ List.cons_ne_nil _ _)
    rw [hresult]
    exact hfaded.push hinside rfl rfl rfl
  · have hstanding := (fetch_standing hfetch).1
    have hroot : fetched.document.rootSeen = stage.document.rootSeen := congrArg Standing.rootSeen hstanding
    have helements : fetched.document.openElements = stage.document.openElements :=
      congrArg Standing.openElements hstanding
    refine hturns.faded (hfaded.of_eq helements (fetch_frame hfetch).1) ?_ ?_
    · intro hunseen
      refine helements.trans ?_
      cases h.layered with
      | outside hnone hinitial => exact hnone
      | inside hseen hlayers =>
        rw [← hroot] at hseen
        exact absurd hseen (Bool.eq_false_iff.1 hunseen)
    · intro name attributes hevent hseen
      change fetched.document.openElements ≠ []
      rw [helements]
      exact (hplaced.startTag hdocument (hevent ▸ hfetch)).2 (hroot ▸ hseen)

theorem Reached.faded {embed : Option (Embedding α)} (h : Reached setting embed events stage)
    (hextends : ∀ embed' ∈ embed, embed'.Extends) (hdocument : MarkupEvent.IsDocument events) :
    stage.document.Faded := by
  obtain ⟨ledger, hruns⟩ := h
  have hall : Reached setting embed events stage ∧ stage.document.Faded := by
    refine hruns.induction_step (P := fun stage => Reached setting embed events stage ∧ stage.document.Faded)
      ⟨⟨ledger, .refl⟩, .outside rfl⟩ fun stage next ⟨hreached, hfaded⟩ hstep => ?_
    obtain ⟨hplaced, canvas, hshown⟩ := hreached.shown hextends hdocument
    obtain ⟨ledger, hbefore⟩ := hreached
    exact ⟨⟨ledger, hbefore.tail (.step hstep)⟩, hshown.faded hplaced hdocument hextends hfaded hstep⟩
  exact hall.2

/-- Wherever an event of a well-formed document paints, the fill alpha in force is the product of the
    opacities of the elements around it that have a graphics state for their content and are no texts, of
    the opacity of the element that is painted, of its fill opacity and of the alpha of its color. -/
theorem fillAlpha_of_reached {levels : Nat} (hdocument : MarkupEvent.IsDocument events)
    (hreached : Reached setting (Embedding.nested levels) events stage)
    (hstep : (stage.step setting).resolve (Embedding.nested levels) = some (.ok next)) :
    ∃ operators, next.document.output.toList = stage.document.output.toList ++ operators ∧
      ∀ first operator second, operators = first ++ operator :: second → operator.isPainting = true →
        ∃ event fetched canvas alpha, stage.fetch = some (event, fetched) ∧
          Canvas.initial.readAll next.resources (stage.document.output.toList ++ first) = some canvas ∧
          stage.document.FillAlpha setting (scopeOpacity stage.document.openElements stage.document.frame)
            event alpha ∧
          Scalar.Agrees alpha canvas.state.fillAlpha := by
  have hextends : ∀ embed ∈ (Embedding.nested levels : Option (Embedding α)), embed.Extends :=
    nested_extends levels
  obtain ⟨hplaced, canvas, hshown⟩ := hreached.shown hextends hdocument
  obtain ⟨operators, houtput, hcanvas⟩ := hshown.exists_canvas hextends hdocument hplaced hstep
  refine ⟨operators, houtput, fun first operator second hsplit hpainting => ?_⟩
  obtain ⟨before, hbefore, event, fetched, hfetch, hholds, -⟩ := hcanvas first operator second hsplit
  obtain ⟨intended, hintends, hcovers⟩ := hholds hpainting
  have halpha := hintends.fillAlpha
  rw [(hreached.faded hextends hdocument).opacity_eq] at halpha
  exact ⟨event, fetched, before, _, hfetch, hbefore, halpha, hcovers.fillAlpha⟩

/-- A rectangle in a group covers as much as its own opacities and that of the group come to. -/
theorem fillAlpha_in_group :
    let drawing := (Draw.events Exact.setting none [Exact.root, Exact.veil] (.initial Exact.setting {})).2
    let stage : Stage Rat := ⟨drawing, [], Exact.veiled⟩
    ∃ next operators, (stage.step Exact.setting).resolve none = some (.ok next) ∧
      next.document.output.toList = stage.document.output.toList ++ operators ∧
      ∀ first operator second, operators = first ++ operator :: second → operator.isPainting = true →
        ∃ event fetched canvas alpha, stage.fetch = some (event, fetched) ∧
          Canvas.initial.readAll next.resources (stage.document.output.toList ++ first) = some canvas ∧
          stage.document.FillAlpha Exact.setting
            (scopeOpacity stage.document.openElements stage.document.frame) event alpha ∧
          Scalar.Agrees alpha canvas.state.fillAlpha := by
  have hok : (Draw.events Exact.setting none [Exact.root, Exact.veil]
      (.initial Exact.setting {})).1.isOk = true := by
    decide +kernel
  have hreached : Reached Exact.setting (Embedding.nested 0) ([Exact.root, Exact.veil] ++ Exact.veiled)
      ⟨_, [], Exact.veiled⟩ := .of_events (Draw.eq_ok hok)
  let stage : Stage Rat :=
    ⟨(Draw.events Exact.setting none [Exact.root, Exact.veil] (.initial Exact.setting {})).2, [], Exact.veiled⟩
  have hstep : ∃ next, (stage.step Exact.setting).resolve none = some (.ok next) := by
    have hgoes : ((stage.step Exact.setting).resolve none).any (fun outcome => outcome.isOk) = true := by
      decide +kernel
    obtain ⟨outcome, houtcome, hisOk⟩ := (Option.any_eq_true _ _).1 hgoes
    cases outcome with
    | ok next => exact ⟨next, houtcome⟩
    | error failure => cases hisOk
  obtain ⟨next, hnext⟩ := hstep
  obtain ⟨operators, houtput, hpainted⟩ := fillAlpha_of_reached Exact.veiled_isDocument hreached hnext
  exact ⟨next, operators, hnext, houtput, hpainted⟩

/-- A letter in a span of a faint text covers all of what lies under it: the text keeps its opacity to
    itself. -/
theorem fillAlpha_forgets_text :
    let text := (Draw.events Exact.setting none Exact.faint (.initial Exact.setting {})).2
    let drawing := (Draw.events Exact.setting none Exact.spanned text).2
    text.document.frame.style.number .opacity = 1 / 2 ∧
      ∃ before operator after canvas, drawing.document.output.toList = before ++ operator :: after ∧
        operator.isPainting = true ∧
        Canvas.initial.readAll drawing.ledger.resources.toList before = some canvas ∧ canvas.state.fillAlpha = 1 := by
  intro text drawing
  have hopacity : text.document.frame.style.number .opacity = 1 / 2 := by decide +kernel
  have hlength : 9 < drawing.document.output.toList.length := by decide +kernel
  have hsplit := List.take_append_drop 9 drawing.document.output.toList
  rw [List.drop_eq_getElem_cons hlength] at hsplit
  have hpainting : (drawing.document.output.toList[9]?.map (·.isPainting)) = some true := by decide +kernel
  rw [List.getElem?_eq_getElem hlength] at hpainting
  have hcanvas : ((Canvas.initial.readAll drawing.ledger.resources.toList (drawing.document.output.toList.take 9)).map
      fun canvas => canvas.state.fillAlpha) = some 1 := by
    decide +kernel
  obtain ⟨canvas, hread, halpha⟩ := Option.map_eq_some_iff.1 hcanvas
  exact ⟨hopacity, _, _, _, canvas, hsplit.symm, Option.some.inj hpainting, hread, halpha⟩

end Stage

end SvgPage
