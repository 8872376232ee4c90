import SvgPage.Proofs.Drawing.Intends
import SvgPage.Proofs.Drawing.Records

namespace SvgPage

variable {α : Type}

namespace Closing

/-- The frame around an element, from the one inside it. -/
def outerFrame (closing : Closing α) (frame : Frame α) : Frame α :=
  match closing with
  | scope previous | nestedSvg previous | text previous _ | span previous => previous
  | _ => frame

theorem undo_frame (closing : Closing α) (scope : Scope α) :
    (closing.undo scope).frame = closing.outerFrame scope.frame := by
  cases closing <;> rfl

end Closing

variable [Scalar α]

open GraphicsState

namespace Document

/-- What is asked of the operators that an event writes: those that paint do so as intended, and the path of
    a shape is built under the map of the shape. -/
def concern (setting : Setting α) (document : Document α) (event : MarkupEvent) : Concern α where
  holds operator actual :=
    (operator.isPainting = true →
      ∃ intended, document.Intends setting event intended ∧ intended.Covers actual) ∧
    (operator.isConstruction = true → ∀ name attributes kind, event = .startTag name attributes →
      ElementKind.ofName name = .shape kind → Scalar.Exact α →
        actual.matrix = (document.frame.ctm.multiply attributes.transform).flip setting.pageHeight)
  of_quiet := by
    intro operator state hpainting hconstruction
    rw [hpainting, hconstruction]
    exact ⟨fun h => (Bool.false_ne_true h).elim, fun h => (Bool.false_ne_true h).elim⟩

/-- What is painted as intended meets what is asked. -/
theorem concern_of_paints {resources : List (Resource α)} {setting : Setting α} {document : Document α}
    {event : MarkupEvent} {intended before : GraphicsState α} {operators : List (Operator α)}
    (hintends : document.Intends setting event intended)
    (h : Paints resources setting.pageHeight intended before operators) :
    Leaves resources (document.concern setting event) setting.pageHeight before operators := by
  intro actual saved hbefore
  refine (h actual saved hbefore).mono fun operator state hholds => ⟨?_, ?_⟩
  · intro hpainting
    exact ⟨intended, hintends, hholds.1 hpainting⟩
  · intro hconstruction name attributes kind hevent hkind hexact
    have hmatrix := hholds.2 hconstruction hexact
    subst hevent
    cases hintends with
    | shape hname hpath => exact hmatrix
    | image hname =>
      rw [hname] at hkind
      cases hkind
    | textBefore hname halpha =>
      rw [hname] at hkind
      cases hkind

theorem concern_congr {setting : Setting α} {document other : Document α} {event : MarkupEvent}
    (hframe : other.frame = document.frame) (hgradients : other.gradients = document.gradients)
    (operator : Operator α) (actual : GraphicsState α) (h : (other.concern setting event).holds operator actual) :
    (document.concern setting event).holds operator actual := by
  refine ⟨fun hpainting => ?_, ?_⟩
  · obtain ⟨intended, hintends, hcovers⟩ := h.1 hpainting
    exact ⟨intended, hintends.congr hframe hgradients, hcovers⟩
  · rw [← hframe]
    exact h.2

theorem concern_of_isLimiting {setting : Setting α} {document : Document α} {event : MarkupEvent}
    (hevent : ∀ name attributes kind, event = .startTag name attributes →
      ElementKind.ofName name ≠ .shape kind)
    {operator : Operator α} (hlimiting : operator.isLimiting = true) (actual : GraphicsState α) :
    (document.concern setting event).holds operator actual := by
  refine ⟨fun hpainting => ?_, fun _ name attributes kind hstart hkind => absurd hkind (hevent _ _ _ hstart)⟩
  rw [Operator.isPainting_of_isLimiting hlimiting] at hpainting
  cases hpainting

/-- What a start tag writes, and the frame it leaves. It saves the graphics state in force for its element
    if the end tag is to restore it. -/
inductive Draws (resources : List (Resource α)) (concern : Concern α) (pageHeight : α)
    (document : Document α) : Document α → Closing α → Prop
  | leaves {result closing operators} (hsaves : closing.saves = false)
      (hframe : result.frame.graphics = document.frame.graphics)
      (houtput : result.output.toList = document.output.toList ++ operators)
      (hleaves : Leaves resources concern pageHeight document.frame.graphics operators) :
      Draws resources concern pageHeight document result closing
  | saves {result closing operators after} (hsaves : closing.saves = true)
      (houtput : result.output.toList = document.output.toList ++ ([.save] ++ operators))
      (hframe : result.frame.graphics = after)
      (hadjusts : Adjusts resources concern pageHeight document.frame.graphics operators after) :
      Draws resources concern pageHeight document result closing

/-- Painting changes nothing but the output. -/
theorem Draws.of_leaves {resources : List (Resource α)} {concern : Concern α} {pageHeight : α}
    {document : Document α} {closing : Closing α} (hsaves : closing.saves = false)
    {operators : List (Operator α)}
    (h : Leaves resources concern pageHeight document.frame.graphics operators) :
    Draws resources concern pageHeight document (document.write operators) closing :=
  .leaves hsaves rfl (write_output document operators) h

/-- Nothing is written for what is left out. -/
theorem Draws.of_nothing {resources : List (Resource α)} {concern : Concern α} {pageHeight : α}
    {document : Document α} {closing : Closing α} (hsaves : closing.saves = false) :
    Draws resources concern pageHeight document document closing :=
  .leaves hsaves rfl (List.append_nil _).symm .nil

/-- Elements that are kept rather than drawn write nothing. -/
theorem Draws.of_kept {resources : List (Resource α)} {concern : Concern α} {pageHeight : α}
    {document result : Document α} {closing : Closing α} (hsaves : closing.saves = false)
    (houtput : result.output = document.output) (hframe : result.frame = document.frame) :
    Draws resources concern pageHeight document result closing :=
  .leaves hsaves (congrArg Frame.graphics hframe)
    ((congrArg Array.toList houtput).trans (List.append_nil _).symm) .nil

/-- Only the output and the frame of a document count for what is written. -/
theorem Draws.congr {resources : List (Resource α)} {concern weaker : Concern α} {pageHeight : α}
    {document other result : Document α} {closing : Closing α}
    (h : Draws resources concern pageHeight other result closing) (hframe : other.frame = document.frame)
    (houtput : other.output = document.output)
    (himp : ∀ operator actual, concern.holds operator actual → weaker.holds operator actual) :
    Draws resources weaker pageHeight document result closing := by
  cases h with
  | leaves hsaves hgraphics hwritten hleaves =>
    rw [hframe] at hgraphics hleaves
    rw [houtput] at hwritten
    exact .leaves hsaves hgraphics hwritten (hleaves.mono himp)
  | saves hsaves hwritten hafter hadjusts =>
    rw [hframe] at hadjusts
    rw [houtput] at hwritten
    exact .saves hsaves hwritten hafter (hadjusts.mono himp)

omit [Scalar α] in
theorem Records.gradients_eq {document result : Document α} {name : String} {attributes : Attributes}
    {recorded defines : Bool} (h : Records document name attributes result recorded defines) :
    result.gradients = document.gradients := by
  cases h <;> rfl

omit [Scalar α] in
theorem enter_output (document : Document α) (frame : Frame α) :
    (document.enter frame).output = document.output := rfl

omit [Scalar α] in
theorem enter_graphics (document : Document α) (frame : Frame α) :
    (document.enter frame).frame.graphics = frame.graphics := rfl

section Handlers

variable [Scalar.Comparable α] {resources : List (Resource α)} {setting : Setting α} {document : Document α}
  {attributes : Attributes} {ledger : Ledger α}

theorem openGroup_draws {concern : Concern α}
    (hlimits : ∀ operator : Operator α, operator.isLimiting = true → ∀ actual, concern.holds operator actual)
    (hresources : (document.openGroup setting attributes ledger).2.resources.toList <+: resources) :
    let result := (document.openGroup setting attributes ledger).1
    Draws resources concern setting.pageHeight document result.1 result.2 := by
  simp only [openGroup, bind_apply, pure_apply] at hresources ⊢
  let style := document.frame.style.resolve attributes setting.options.dpi
  let opacity := document.frame.opacity * style.number .opacity
  have hopens : Adjusts resources concern setting.pageHeight document.frame.graphics _
      (document.frame.elementGraphics attributes.transform style opacity opacity) :=
    .element (isLimiting_clipRegion setting document style none ledger)
      (fun operator h actual _ => hlimits operator h actual) _ _ _ _ hresources
  refine .saves rfl ?_ ?_ hopens
  · simp only [enter_output, write_output, Attributes.transform, List.append_assoc, style, opacity]
  · rw [enter_graphics]
    simp only [Frame.graphics, Frame.elementGraphics, Attributes.transform, style, opacity]

/-- A viewport is opened like a group, with a limit and a map of its own. -/
theorem viewport_draws {concern : Concern α}
    (hlimits : ∀ operator : Operator α, operator.isLimiting = true → ∀ actual, concern.holds operator actual)
    (style : Style α) (size : Size α) (transform inner : Matrix α) (depth : Nat)
    {viewportClip : List (Operator α)} (hviewport : ∀ operator ∈ viewportClip, operator.isLimiting = true)
    (hresources :
      let opacity := document.frame.opacity * style.number .opacity
      (graphicsState document.frame style opacity opacity
        (clipRegion setting document style none ledger).2).2.resources.toList <+: resources) :
    let frame := document.frame
    let opacity := frame.opacity * style.number .opacity
    let clip := clipRegion setting document style none ledger
    let opened := document.write ([.save] ++ transform.operators setting.pageHeight ++ viewportClip ++ clip.1 ++
      (graphicsState frame style opacity opacity clip.2).1 ++ inner.operators setting.pageHeight)
    Draws resources concern setting.pageHeight document
      ({ opened with svgDepth := depth }.enter
        { frame with
          style
          viewport := size
          ctm := (frame.ctm.multiply transform).multiply inner
          opacity
          blendMode := frame.blend style.blendMode })
      (.nestedSvg frame) := by
  intro frame opacity clip opened
  have hclips := List.forall_mem_append.2 ⟨hviewport, isLimiting_clipRegion setting document style none ledger⟩
  have helement : Adjusts resources concern setting.pageHeight frame.graphics _
      (frame.elementGraphics transform style opacity opacity) :=
    .element hclips (fun operator h actual _ => hlimits operator h actual) _ _ _ _ hresources
  refine .saves rfl ?_ ?_ (helement.append (.transform _ inner))
  · rw [enter_output]
    change (document.write _).output.toList = _
    rw [write_output]
    simp only [List.append_assoc, clip]
  · rw [enter_graphics]
    simp only [Frame.graphics, Frame.elementGraphics]

theorem openNestedSvg_draws {concern : Concern α}
    (hlimits : ∀ operator : Operator α, operator.isLimiting = true → ∀ actual, concern.holds operator actual)
    (hresources : (document.openNestedSvg setting attributes ledger).2.resources.toList <+: resources) :
    let result := (document.openNestedSvg setting attributes ledger).1
    Draws resources concern setting.pageHeight document result.1 result.2 := by
  have hviewport (clips : Bool) (box : Box α) :
      ∀ operator ∈ if clips then box.clipOperators setting.pageHeight else [], operator.isLimiting = true := by
    cases clips with
    | true => exact isLimiting_clipOperators box setting.pageHeight
    | false => exact List.forall_mem_nil _
  simp only [openNestedSvg, bind_apply, pure_apply] at hresources ⊢
  have hstate := ((Tells.notify _).grows.extends_ledger _).trans hresources
  exact viewport_draws hlimits _ _ _ _ _ (hviewport _ _) hstate

omit [Scalar.Comparable α] in
theorem openText_draws {concern : Concern α}
    (hlimits : ∀ operator : Operator α, operator.isLimiting = true → ∀ actual, concern.holds operator actual) :
    let result := (document.openText setting attributes ledger).1
    Draws resources concern setting.pageHeight document result.1 result.2 := by
  simp only [openText, bind_apply, pure_apply]
  let style := document.frame.style.resolve attributes setting.options.dpi
  have hopens : Adjusts resources concern setting.pageHeight document.frame.graphics _
      (document.frame.mappedGraphics attributes.transform) :=
    .limited (isLimiting_clipRegion setting document style none ledger)
      (fun operator h actual _ => hlimits operator h actual)
  refine .saves rfl ?_ ?_ hopens
  · simp only [enter_output, Attributes.transform, style]
    rw [write_output]
    simp only [List.append_assoc]
  · rw [enter_graphics]
    simp only [Frame.graphics, Frame.mappedGraphics, Attributes.transform]

/-- The characters that are pending are painted as intended, if at all. -/
theorem flushText_leaves (document : Document α) (atEnd : Bool) {event : MarkupEvent}
    (hevent : ∀ alpha, document.frame.style.textAlpha? = some alpha →
      document.Intends setting event (document.frame.textGraphics alpha))
    (hresources : (document.flushText setting atEnd ledger).2.resources.toList <+: resources) :
    ∃ operators text, (document.flushText setting atEnd ledger).1 = { document.write operators with text } ∧
      Leaves resources (document.concern setting event) setting.pageHeight document.frame.graphics
        operators := by
  have hnothing : document.write [] = document := write_nil document
  cases htext : document.text with
  | none =>
    simp only [flushText, htext, pure_apply]
    refine ⟨[], none, ?_, .nil⟩
    rw [hnothing, ← htext]
  | some state =>
    simp only [flushText, htext] at hresources ⊢
    split at hresources
    next hempty =>
      rw [if_pos hempty]
      refine ⟨[], some { state with pending := "" }, ?_, .nil⟩
      rw [hnothing]
      rfl
    next hsome =>
      rw [if_neg hsome]
      simp only [bind_apply, pure_apply] at hresources ⊢
      refine ⟨_, _, rfl, ?_⟩
      obtain hnone | ⟨alpha, halpha, hpaints⟩ := paints_paintRun document.frame _ setting.pageHeight _ hresources
      · rw [hnone]
        exact .nil
      · exact concern_of_paints (hevent alpha halpha) hpaints

theorem openSpan_draws {name : String} (hname : ElementKind.ofName name = .span)
    (hresources : (document.openSpan setting attributes ledger).2.resources.toList <+: resources) :
    let result := (document.openSpan setting attributes ledger).1
    Draws resources (document.concern setting (.startTag name attributes)) setting.pageHeight document
      result.1 result.2 := by
  rw [openSpan] at hresources ⊢
  split at hresources
  next hnone =>
    rw [if_pos hnone]
    refine openText_draws fun operator hlimiting actual => concern_of_isLimiting ?_ hlimiting actual
    intro _ _ kind hstart hkind
    cases hstart
    rw [hname] at hkind
    cases hkind
  next hsome =>
    rw [if_neg hsome]
    simp only [bind_apply, pure_apply] at hresources ⊢
    have hbefore (alpha : α) (halpha : document.frame.style.textAlpha? = some alpha) :
        document.Intends setting (.startTag name attributes) (document.frame.textGraphics alpha) :=
      .textBefore hname halpha
    obtain ⟨operators, text, hflushed, hleaves⟩ := flushText_leaves document false hbefore hresources
    rw [hflushed]
    exact .leaves rfl rfl (write_output document operators) hleaves

theorem drawShape_draws {name : String} {kind : ShapeKind} (hname : ElementKind.ofName name = .shape kind)
    (hresources : (document.drawShape setting kind attributes ledger).2.resources.toList <+: resources) :
    Draws resources (document.concern setting (.startTag name attributes)) setting.pageHeight document
      (document.drawShape setting kind attributes ledger).1 .nothing := by
  simp only [drawShape, read_transform] at hresources ⊢
  cases hpath : (document.shapeContext setting (document.frame.style.resolve attributes
      setting.options.dpi)).path? attributes kind with
  | none => exact .of_nothing rfl
  | some path =>
    rw [hpath] at hresources
    dsimp only at hresources ⊢
    split at hresources
    next hhidden =>
      rw [if_pos hhidden]
      exact .of_nothing rfl
    next hshown =>
      rw [if_neg hshown]
      simp only [bind_apply, pure_apply] at hresources ⊢
      have hpaints := paints_paintPath path _ _ _ hresources
      exact .of_leaves rfl (concern_of_paints (.shape hname hpath) hpaints)

theorem openImage_draws {name : String} (hname : ElementKind.ofName name = .image)
    (hresources : (document.openImage setting attributes ledger).2.resources.toList <+: resources) :
    let result := (document.openImage setting attributes ledger).1
    Draws resources (document.concern setting (.startTag name attributes)) setting.pageHeight document
      result.1 result.2.closing := by
  simp only [openImage, read_transform] at hresources ⊢
  split at hresources
  next hnone =>
    rw [if_pos hnone]
    exact .of_nothing rfl
  next hsome =>
    rw [if_neg hsome]
    split at hresources
    next hreference =>
      rw [if_pos hreference]
      simp only [bind_apply, pure_apply, openEmbedded]
      split
      · exact .of_nothing rfl
      · cases setting.options.load _ with
        | none => exact .of_nothing rfl
        | some bytes => exact .of_nothing rfl
    next hpixels =>
      rw [if_neg hpixels]
      cases hload : setting.options.load (Text.trim (attributes.href?.getD "")) with
      | none => exact .of_nothing rfl
      | some bytes =>
        rw [hload] at hresources
        simp only [bind_apply, pure_apply] at hresources ⊢
        obtain ⟨operators, hwritten, hpaints⟩ := paints_drawPixels _ _ _ bytes ledger hresources
        rw [hwritten]
        exact .of_leaves rfl (concern_of_paints (.image hname) hpaints)

omit [Scalar.Comparable α] in
/-- There is nothing to undo after a use. -/
theorem openUse_closing (setting : Setting α) (document : Document α) (attributes : Attributes)
    (ledger : Ledger α) : (document.openUse setting attributes ledger).1.closing = .nothing := by
  cases hfound : document.findUse? attributes with
  | none => simp only [openUse, hfound, Opening.leaveOut, bind_apply, pure_apply, Opening.inert, Opening.closing]
  | some found =>
    obtain ⟨id, definition⟩ := found
    cases definition with
    | pending =>
      simp only [openUse, hfound, Opening.leaveOut, bind_apply, pure_apply, Opening.inert, Opening.closing]
    | complete tags =>
      simp only [openUse, hfound]
      split
      · rfl
      · split
        · rfl
        · cases tags with
          | nil => rfl
          | cons first rest => cases first <;> rfl

theorem openDrawn_draws {name : String}
    (hresources : (document.openDrawn setting (.ofName name) attributes ledger).2.resources.toList <+:
      resources) :
    let result := (document.openDrawn setting (.ofName name) attributes ledger).1
    Draws resources (document.concern setting (.startTag name attributes)) setting.pageHeight document
      result.1 result.2.closing := by
  have hlimits (hkind : ∀ kind, ElementKind.ofName name ≠ .shape kind) (operator : Operator α)
      (hlimiting : operator.isLimiting = true) (actual : GraphicsState α) :
      (document.concern setting (.startTag name attributes)).holds operator actual := by
    refine concern_of_isLimiting ?_ hlimiting actual
    intro _ _ kind hstart
    cases hstart
    exact hkind kind
  cases hname : ElementKind.ofName name with
  | svg =>
    rw [hname] at hresources
    exact openNestedSvg_draws (hlimits (by simp [hname])) hresources
  | group =>
    rw [hname] at hresources
    exact openGroup_draws (hlimits (by simp [hname])) hresources
  | text =>
    exact openText_draws (hlimits (by simp [hname]))
  | span =>
    rw [hname] at hresources
    exact openSpan_draws hname hresources
  | use =>
    simp only [openDrawn, bind_apply, pure_apply]
    rw [openUse_closing]
    exact .of_nothing rfl
  | shape shape =>
    rw [hname] at hresources
    simp only [openDrawn, bind_apply, pure_apply] at hresources ⊢
    exact drawShape_draws hname hresources
  | image =>
    rw [hname] at hresources
    simp only [openDrawn] at hresources ⊢
    exact openImage_draws hname hresources
  | _ => exact .of_nothing rfl

omit [Scalar.Comparable α] in
theorem openClipElement_draws (resources : List (Resource α)) (setting : Setting α) (document : Document α)
    (clip : ClipCapture α) (kind : ElementKind) (attributes : Attributes) (concern : Concern α) :
    let result := document.openClipElement setting clip kind attributes
    Draws resources concern setting.pageHeight document result.1 result.2 := by
  cases kind with
  | shape shape =>
    simp only [openClipElement]
    cases (document.shapeContext setting _).path? attributes shape with
    | some path => exact .of_kept rfl rfl rfl
    | none => exact .of_kept rfl rfl rfl
  | _ => exact .of_kept rfl rfl rfl

theorem openElement_draws {name : String}
    (hresources : (document.openElement setting (.ofName name) attributes ledger).2.resources.toList <+:
      resources) :
    let result := (document.openElement setting (.ofName name) attributes ledger).1
    Draws resources (document.concern setting (.startTag name attributes)) setting.pageHeight document
      result.1 result.2.closing := by
  cases hclip : document.clip with
  | some clip =>
    have hkept (kind : ElementKind) := openClipElement_draws resources setting document clip kind attributes
      (document.concern setting (.startTag name attributes))
    simp only [openElement, hclip]
    generalize ElementKind.ofName name = kind
    cases kind with
    | gradient _ | stop | clipPath => exact .of_nothing rfl
    | use =>
      simp only [bind_apply, pure_apply]
      rw [openUse_closing]
      exact .of_nothing rfl
    | shape shape => exact hkept (.shape shape)
    | unknown name => exact hkept (.unknown name)
    | svg => exact hkept .svg
    | group => exact hkept .group
    | text => exact hkept .text
    | span => exact hkept .span
    | image => exact hkept .image
    | defs => exact hkept .defs
    | symbol => exact hkept .symbol
  | none =>
    have hdrawn : (if 0 < document.definitionsDepth then pure (document, .inert)
        else document.openDrawn setting (.ofName name) attributes : StateM _ _) ledger =
          document.openElement setting (.ofName name) attributes ledger →
        let result := (document.openElement setting (.ofName name) attributes ledger).1
        Draws resources (document.concern setting (.startTag name attributes)) setting.pageHeight document
          result.1 result.2.closing := by
      intro hopen
      rw [← hopen] at hresources ⊢
      split at hresources
      next hdefinitions =>
        rw [if_pos hdefinitions]
        exact .of_nothing rfl
      next hdefinitions =>
        rw [if_neg hdefinitions]
        exact openDrawn_draws hresources
    cases hname : ElementKind.ofName name with
    | gradient gradient =>
      simp only [openElement, hclip]
      exact .of_kept rfl rfl rfl
    | stop =>
      simp only [openElement, hclip]
      obtain ⟨gradients, hadded⟩ := document.addStop_eq setting attributes
      rw [hadded]
      exact .of_kept rfl rfl rfl
    | clipPath =>
      simp only [openElement, hclip]
      exact .of_kept rfl rfl rfl
    | defs | symbol =>
      simp only [openElement, hclip]
      exact .of_kept rfl rfl rfl
    | _ =>
      rw [hname] at hdrawn
      apply hdrawn
      simp only [openElement, hclip]

/-- What is recorded at a start tag does not count for what is drawn. -/
theorem beginTag_draws {name : String}
    (hresources : (document.beginTag setting name attributes ledger).2.resources.toList <+: resources) :
    let result := (document.beginTag setting name attributes ledger).1
    Draws resources (document.concern setting (.startTag name attributes)) setting.pageHeight document result.1
      result.2.opening.closing := by
  have hrecords := recordStart_records document name attributes (.ofName name)
  have hdraws := openElement_draws hresources
  exact hdraws.congr (congrArg Scope.frame hrecords.scope_eq) hrecords.output_eq
    (concern_congr (congrArg Scope.frame hrecords.scope_eq) hrecords.gradients_eq)

theorem close_writes (document : Document α) (closing : Closing α) (name : String)
    (hresources : (document.close setting closing ledger).2.resources.toList <+: resources) :
    ∃ operators,
      Leaves resources (document.concern setting (.endTag name)) setting.pageHeight document.frame.graphics
        operators ∧
      (document.close setting closing ledger).1.output.toList = document.output.toList ++
        (operators ++ if closing.saves then [.restore] else []) := by
  have hnothing : document.output.toList = document.output.toList ++ ([] ++ []) := (List.append_nil _).symm
  have hevent (alpha : α) (halpha : document.frame.style.textAlpha? = some alpha) :
      document.Intends setting (.endTag name) (document.frame.textGraphics alpha) := .text halpha
  cases closing with
  | scope previous => exact ⟨[], .nil, write_output ..⟩
  | nestedSvg previous => exact ⟨[], .nil, write_output ..⟩
  | text previous outer =>
    simp only [close, bind_apply, pure_apply] at hresources ⊢
    obtain ⟨operators, text, hflushed, hleaves⟩ := flushText_leaves document true hevent hresources
    refine ⟨operators, hleaves, ?_⟩
    rw [hflushed]
    change ((document.write operators).write [.restore]).output.toList = _
    rw [write_append, write_output]
    rfl
  | span previous =>
    simp only [close, bind_apply, pure_apply] at hresources ⊢
    obtain ⟨operators, text, hflushed, hleaves⟩ := flushText_leaves document false hevent hresources
    refine ⟨operators, hleaves, ?_⟩
    rw [hflushed]
    exact (write_output document operators).trans (congrArg (_ ++ ·) (List.append_nil _).symm)
  | _ => exact ⟨[], .nil, hnothing⟩

/-- What an end tag writes: text that is pending, and an operator that restores the graphics state if the
    element has saved it. -/
theorem endElement_writes (document : Document α) (element : OpenElement α) (name : String)
    (hresources : (document.endElement setting element name ledger).2.resources.toList <+: resources) :
    ∃ operators,
      Leaves resources (document.concern setting (.endTag name)) setting.pageHeight document.frame.graphics
        operators ∧
      (document.endElement setting element name ledger).1.output.toList = document.output.toList ++
        (operators ++ if element.closing.saves then [.restore] else []) := by
  simp only [endElement, bind_apply, pure_apply] at hresources ⊢
  obtain ⟨operators, hleaves, houtput⟩ := close_writes _ element.closing name hresources
  have hframe : (if element.recorded then document.recordEnd name else document).frame = document.frame := by
    split <;> rfl
  have hgradients : (if element.recorded then document.recordEnd name else document).gradients =
      document.gradients := by
    split <;> rfl
  have hrecorded : (if element.recorded then document.recordEnd name else document).output =
      document.output := by
    split <;> rfl
  rw [hframe] at hleaves
  rw [hrecorded] at houtput
  refine ⟨operators, hleaves.mono (concern_congr hframe hgradients), ?_⟩
  split
  · rw [finishRecording_output]
    exact houtput
  · exact houtput

omit [Scalar.Comparable α] in
theorem openRoot_run {size : Size α} (hsize : rootSize setting document.frame attributes = .ok size) :
    let style := document.frame.style.resolve attributes setting.options.dpi
    let opacity := style.number .opacity
    let fit := RootFit.ofAttributes setting attributes
      (intrinsicSize attributes (style.lengthContext setting.options.dpi)) size
    let state := graphicsState document.frame style opacity opacity
      (Ledger.notify (.drawing (size.width, size.height) setting.depth) ledger).2
    (document.openRoot setting attributes).run ledger =
      (.ok ((document.write
          ([.save] ++ setting.placement.matrix.operators setting.pageHeight ++
            [.rect (drawingBox setting size), .paint .clip] ++ fit.matrix.operators setting.pageHeight ++
            state.1)).enter
          { style
            viewport := fit.viewport
            ctm := setting.placement.matrix.multiply fit.matrix
            opacity
            blendMode := style.blendMode
            hidden := false }, .scope document.frame), state.2) := by
  simp only [openRoot, hsize]
  rfl

/-- What the start tag of a root writes: it saves the graphics state in which the page begins. -/
theorem openRoot_writes {concern : Concern α}
    (hlimits : ∀ operator : Operator α, operator.isLimiting = true → ∀ actual, concern.holds operator actual)
    (hopacity : document.frame.opacity = 1) (hblend : document.frame.blendMode = .normal)
    {opened : Document α} {closing : Closing α} {ledger' : Ledger α}
    (h : (document.openRoot setting attributes).run ledger = (.ok (opened, closing), ledger'))
    (hresources : ledger'.resources.toList <+: resources) :
    ∃ operators, Adjusts resources concern setting.pageHeight .initial operators opened.frame.graphics ∧
      opened.output.toList = document.output.toList ++ ([.save] ++ operators) := by
  cases hsize : rootSize setting document.frame attributes with
  | error failure =>
    simp only [openRoot, hsize] at h
    cases h
  | ok size =>
    rw [openRoot_run hsize] at h
    obtain ⟨hresult, rfl⟩ := Prod.mk.inj h
    obtain ⟨rfl, -⟩ := Prod.mk.inj (Except.ok.inj hresult)
    let style := document.frame.style.resolve attributes setting.options.dpi
    let opacity := style.number .opacity
    let fit := (RootFit.ofAttributes setting attributes
      (intrinsicSize attributes (style.lengthContext setting.options.dpi)) size).matrix
    let placement := setting.placement.matrix
    let placed : GraphicsState α := { GraphicsState.initial with matrix := Matrix.identity.multiply placement }
    let fitted : GraphicsState α := { placed with matrix := placed.matrix.multiply fit }
    have hplaced : Adjusts resources concern setting.pageHeight .initial _ placed := .transform _ placement
    have hbox : Adjusts resources concern setting.pageHeight placed
        [.rect (drawingBox setting size), .paint .clip] placed :=
      .limits (by simp [Operator.isLimiting, Operator.isConstruction, PaintOperator.clips])
        fun operator hlimiting actual _ => hlimits operator hlimiting actual
    have hfitted : Adjusts resources concern setting.pageHeight placed _ fitted := .transform _ fit
    have hcovered : Adjusts resources concern setting.pageHeight
        { document.frame.graphics with matrix := fitted.matrix } _ _ :=
      .graphicsState document.frame fitted.matrix style opacity opacity _ hresources
    have hsame : { document.frame.graphics with matrix := fitted.matrix } = fitted := by
      simp only [Frame.graphics, hopacity, hblend]
      rfl
    have hown : document.frame.blend style.blendMode = style.blendMode := by
      rw [Frame.blend, hblend]
      split
      next hnormal => exact (beq_iff_eq.1 hnormal).symm
      · rfl
    rw [hsame, hown] at hcovered
    refine ⟨_, (((hplaced.append hbox).append hfitted).append hcovered).weaken ?_, ?_⟩
    · intro actual hactual
      rw [enter_graphics]
      simp only [Frame.graphics]
      refine hactual.of_matrix fun hexact => ?_
      simp only [fitted, placed, placement, Matrix.identity_multiply]
      rfl
    · rw [enter_output, write_output]
      simp only [List.append_assoc]
      rfl

end Handlers

end Document

end SvgPage
