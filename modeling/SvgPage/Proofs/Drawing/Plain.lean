import SvgPage.Drawing.Closing
import SvgPage.Drawing.Opening
import SvgPage.Proofs.Content.Painting
import SvgPage.Proofs.Element.Alike

namespace SvgPage

variable {α β : Type}

/-- An open element without what concerns recordings. -/
def OpenElement.plain (element : OpenElement α) : OpenElement α := ⟨element.closing, false, false⟩

namespace Document

/-- A document as it would be if nothing were recorded and no use expanded. -/
def plain (document : Document α) : Document α :=
  { document with
    openElements := document.openElements.map OpenElement.plain
    definitions := {}
    recordings := []
    recordedText := ""
    expanding := []
    replayDepth := 0 }

/-- What an action on a document yields, with the document made plain. -/
def plainResult (result : (Document α × β) × Ledger α) : (Document α × β) × Ledger α :=
  ((result.1.1.plain, result.1.2), result.2)

theorem write_plain (document : Document α) (operators : List (Operator α)) :
    (document.write operators).plain = document.plain.write operators := rfl

theorem recordStart_plain (document : Document α) (name : String) (attributes : Attributes)
    (kind : ElementKind) : (document.recordStart name attributes kind).1.plain = document.plain := by
  simp only [recordStart]
  split
  · rfl
  · split <;> rfl

theorem finishRecording_plain (document : Document α) : document.finishRecording.plain = document.plain := by
  rw [finishRecording]
  split <;> rfl

theorem addText_plain (document : Document α) (text : String) :
    (document.addText text).plain = document.plain.addText text := by
  have hdrawing : document.plain.isDrawing = document.isDrawing := rfl
  have htext : document.plain.text = document.text := rfl
  simp only [addText, hdrawing, htext]
  split <;> split <;> rfl

theorem push_plain (document : Document α) (element : OpenElement α) :
    (document.push element).plain = document.plain.push element.plain := rfl

theorem plain_frame (document : Document α) : document.plain.frame = document.frame := rfl

variable [Scalar α] (setting : Setting α) (document : Document α) (attributes : Attributes)
  (ledger : Ledger α)

theorem flushText_plain (atEnd : Bool) :
    document.plain.flushText setting atEnd ledger =
      ((document.flushText setting atEnd ledger).1.plain, (document.flushText setting atEnd ledger).2) := by
  cases hstate : document.text with
  | none =>
    have hplain : document.plain.text = none := hstate
    simp only [flushText, hstate, hplain]
    rfl
  | some state =>
    have hplain : document.plain.text = some state := hstate
    simp only [flushText, hstate, hplain, plain_frame]
    split
    · rfl
    · simp only [bind_apply, pure_apply]
      rfl

theorem clipRegion_plain : clipRegion setting document.plain = clipRegion setting document := by
  have hclipPaths : document.plain.clipPaths = document.clipPaths := rfl
  funext style box
  simp only [clipRegion, hclipPaths]

theorem read_plain (value : String) (style : Style α) (box : Box α) :
    ResolvedPaint.read setting document.plain value style box =
      ResolvedPaint.read setting document value style box := by
  have hgradients : document.plain.gradients = document.gradients := rfl
  simp only [ResolvedPaint.read, hgradients]

theorem paintPath_plain (path : Path α) (style : Style α) (transform : Matrix α) :
    paintPath setting document.plain path style transform = paintPath setting document path style transform := by
  simp only [paintPath, plain_frame, clipRegion_plain, read_plain]

theorem drawShape_plain (kind : ShapeKind) :
    document.plain.drawShape setting kind attributes ledger =
      ((document.drawShape setting kind attributes ledger).1.plain,
        (document.drawShape setting kind attributes ledger).2) := by
  have hcontext : document.plain.shapeContext setting = document.shapeContext setting := rfl
  unfold drawShape
  rw [plain_frame, hcontext]
  cases (document.shapeContext setting _).path? attributes kind with
  | none => rfl
  | some path =>
    dsimp only
    by_cases hunseen : ((document.frame.style.resolve attributes setting.options.dpi).isInvisible ||
        document.frame.hidden) = true
    · rw [if_pos hunseen, if_pos hunseen]
      rfl
    · rw [if_neg hunseen, if_neg hunseen]
      simp only [bind_apply, pure_apply, paintPath_plain, write_plain]

theorem openGroup_plain :
    document.plain.openGroup setting attributes ledger =
      plainResult (document.openGroup setting attributes ledger) := by
  simp only [openGroup, bind_apply, pure_apply]
  rfl

theorem openNestedSvg_plain :
    document.plain.openNestedSvg setting attributes ledger =
      plainResult (document.openNestedSvg setting attributes ledger) := by
  simp only [openNestedSvg, bind_apply, pure_apply]
  rfl

theorem openText_plain :
    document.plain.openText setting attributes ledger =
      plainResult (document.openText setting attributes ledger) := by
  have hdepth : document.plain.openElements.length = document.openElements.length := List.length_map ..
  simp only [openText, bind_apply, pure_apply, hdepth]
  rfl

theorem openSpan_plain :
    document.plain.openSpan setting attributes ledger =
      plainResult (document.openSpan setting attributes ledger) := by
  have htext : document.plain.text = document.text := rfl
  simp only [openSpan, htext]
  split
  · exact openText_plain setting document attributes ledger
  · simp only [bind_apply, pure_apply, flushText_plain]
    rfl

theorem openImage_plain :
    document.plain.openImage setting attributes ledger =
      plainResult (document.openImage setting attributes ledger) := by
  have hcontext : document.plain.shapeContext setting = document.shapeContext setting := rfl
  simp only [openImage, plain_frame, hcontext]
  split
  · rfl
  · split
    · rfl
    · cases setting.options.load (Text.trim (attributes.href?.getD "")) <;> rfl

theorem openClipElement_plain (clip : ClipCapture α) (kind : ElementKind) :
    document.plain.openClipElement setting clip kind attributes =
      ((document.openClipElement setting clip kind attributes).1.plain,
        (document.openClipElement setting clip kind attributes).2) := by
  have hcontext : document.plain.shapeContext setting = document.shapeContext setting := rfl
  cases kind with
  | shape shape =>
    simp only [openClipElement, plain_frame, hcontext]
    cases (document.shapeContext setting _).path? attributes shape <;> rfl
  | _ => rfl

theorem openGradientElement_plain (kind : GradientKind) :
    document.plain.openGradientElement kind attributes = (document.openGradientElement kind attributes).plain := by
  unfold openGradientElement
  cases attributes.get? "id" <;> rfl

theorem openClipPath_plain :
    document.plain.openClipPath attributes = (document.openClipPath attributes).plain := by
  unfold openClipPath
  cases attributes.get? "id" <;> rfl

theorem addStop_plain : document.plain.addStop setting attributes = (document.addStop setting attributes).plain := by
  have hgradient : document.plain.openGradient = document.openGradient := rfl
  unfold addStop
  rw [hgradient, plain_frame]
  cases document.openGradient <;> rfl

omit [Scalar α] in
theorem opened_plain {first second : StateM (Ledger α) (Document α × Closing α)}
    (h : first ledger = plainResult (second ledger)) :
    opened first ledger = plainResult (opened second ledger) := by
  simp only [opened, bind_apply, pure_apply, h]
  rfl

theorem openDrawn_plain {kind : ElementKind} (hkind : kind ≠ .use) :
    document.plain.openDrawn setting kind attributes ledger =
      plainResult (document.openDrawn setting kind attributes ledger) := by
  cases kind with
  | svg => exact opened_plain ledger (openNestedSvg_plain setting document attributes ledger)
  | group => exact opened_plain ledger (openGroup_plain setting document attributes ledger)
  | text => exact opened_plain ledger (openText_plain setting document attributes ledger)
  | span => exact opened_plain ledger (openSpan_plain setting document attributes ledger)
  | use => exact absurd rfl hkind
  | shape shape =>
    simp only [openDrawn, bind_apply, pure_apply, drawShape_plain]
    rfl
  | image => exact openImage_plain setting document attributes ledger
  | _ => rfl

/-- What an element does, unless it is a `use`, does not depend on what is recorded and expanded. -/
theorem openElement_plain {kind : ElementKind} (hkind : kind ≠ .use) :
    document.plain.openElement setting kind attributes ledger =
      plainResult (document.openElement setting kind attributes ledger) := by
  have hclip : document.plain.clip = document.clip := rfl
  have hdepth : document.plain.definitionsDepth = document.definitionsDepth := rfl
  unfold openElement
  rw [hclip]
  cases document.clip with
  | some clip =>
    have hopened (kind : ElementKind) :
        opened (pure (document.plain.openClipElement setting clip kind attributes)) ledger =
          plainResult (opened (pure (document.openClipElement setting clip kind attributes)) ledger) := by
      refine opened_plain ledger ?_
      rw [pure_apply, openClipElement_plain]
      rfl
    cases kind with
    | use => exact absurd rfl hkind
    | gradient _ | stop | clipPath => rfl
    | _ => exact hopened _
  | none =>
    have hdrawn : (if 0 < document.plain.definitionsDepth then pure (document.plain, .inert)
        else document.plain.openDrawn setting kind attributes : StateM _ _) ledger =
        plainResult ((if 0 < document.definitionsDepth then pure (document, .inert)
          else document.openDrawn setting kind attributes : StateM _ _) ledger) := by
      rw [hdepth]
      split
      · rfl
      · exact openDrawn_plain setting document attributes ledger hkind
    cases kind with
    | gradient gradient =>
      dsimp only
      rw [openGradientElement_plain]
      rfl
    | stop =>
      dsimp only
      rw [addStop_plain]
      rfl
    | clipPath =>
      dsimp only
      rw [openClipPath_plain]
      rfl
    | defs | symbol => rfl
    | _ => exact hdrawn

theorem close_plain (closing : Closing α) :
    document.plain.close setting closing ledger =
      ((document.close setting closing ledger).1.plain, (document.close setting closing ledger).2) := by
  cases closing with
  | text previous outer =>
    simp only [close, bind_apply, pure_apply, flushText_plain]
    rfl
  | span previous =>
    simp only [close, bind_apply, pure_apply, flushText_plain]
    rfl
  | _ => rfl

/-- So it is with what the end tag of an element does. -/
theorem endElement_plain (element : OpenElement α) (name : String) :
    document.plain.endElement setting element.plain name ledger =
      ((document.endElement setting element name ledger).1.plain,
        (document.endElement setting element name ledger).2) := by
  have hrecorded : (if element.recorded then document.recordEnd name else document).plain = document.plain := by
    split <;> rfl
  have hclosed := close_plain setting (if element.recorded then document.recordEnd name else document) ledger
    element.closing
  rw [hrecorded] at hclosed
  change document.plain.close setting element.closing ledger = _
  simp only [endElement, bind_apply, pure_apply, hclosed]
  cases element.defines with
  | true => rw [if_pos rfl, finishRecording_plain]
  | false => rw [if_neg Bool.false_ne_true]

end Document

end SvgPage
