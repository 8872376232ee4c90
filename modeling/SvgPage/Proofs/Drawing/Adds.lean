import SvgPage.Drawing.Closing
import SvgPage.Proofs.Drawing.Draws
import SvgPage.Proofs.Drawing.Sheet

namespace SvgPage

variable {α β γ : Type}

namespace Document

/-- A document for which something else has been written so far. -/
def on (document : Document α) (output : Array (Operator α)) : Document α := { document with output }

section Fields

variable (document : Document α) (output : Array (Operator α))

@[simp] theorem frame_on : (document.on output).frame = document.frame := rfl

@[simp] theorem text_on : (document.on output).text = document.text := rfl

@[simp] theorem clipPaths_on : (document.on output).clipPaths = document.clipPaths := rfl

@[simp] theorem clip_on : (document.on output).clip = document.clip := rfl

@[simp] theorem definitionsDepth_on : (document.on output).definitionsDepth = document.definitionsDepth := rfl

@[simp] theorem expanding_on : (document.on output).expanding = document.expanding := rfl

@[simp] theorem openGradient_on : (document.on output).openGradient = document.openGradient := rfl

@[simp] theorem gradients_on : (document.on output).gradients = document.gradients := rfl

@[simp] theorem recordings_on : (document.on output).recordings = document.recordings := rfl

@[simp] theorem replayDepth_on : (document.on output).replayDepth = document.replayDepth := rfl

@[simp] theorem isDrawing_on : (document.on output).isDrawing = document.isDrawing := rfl

end Fields

theorem recordStart_on (document : Document α) (name : String) (attributes : Attributes) (kind : ElementKind) :
    ∃ (next : Document α) (begun : Bool × Bool), ∀ output,
      (document.on output).recordStart name attributes kind = (next.on output, begun) := by
  by_cases hkept : (decide (0 < document.replayDepth) || document.clip.isSome || !kind.isRecorded) = true
  · exact ⟨document, _, fun output => if_pos hkept⟩
  · let event := DefinitionEvent.startTag name attributes
      (if document.recordings.isEmpty then "" else document.recordedText)
    let recorded := document.recordEvent event
    cases hid : (attributes.get? "id").filter (!·.isEmpty) with
    | none =>
      refine ⟨recorded, (!document.recordings.isEmpty, false), fun output => (if_neg hkept).trans ?_⟩
      simp only [hid]
      rfl
    | some id =>
      refine ⟨{ recorded with
        definitions := recorded.definitions.set id .pending
        recordings := ⟨id, #[event], false⟩ :: recorded.recordings.map (·.supersede id) }, (true, true),
        fun output => (if_neg hkept).trans ?_⟩
      simp only [hid]
      rfl

theorem finishRecording_on (document : Document α) (output : Array (Operator α)) :
    (document.on output).finishRecording = document.finishRecording.on output := by
  simp only [finishRecording, recordings_on]
  split <;> rfl

theorem addText_on (document : Document α) (output : Array (Operator α)) (text : String) :
    (document.on output).addText text = (document.addText text).on output := by
  by_cases hkept : (!document.recordings.isEmpty && document.replayDepth == 0 && document.clip.isNone) = true
  all_goals
    simp only [addText, text_on, isDrawing_on, recordings_on, replayDepth_on, clip_on, hkept, if_true,
      Bool.false_eq_true, if_false]
    split <;> rfl

variable [Scalar α]

theorem addStop_on (setting : Setting α) (document : Document α) (output : Array (Operator α))
    (attributes : Attributes) :
    (document.on output).addStop setting attributes = (document.addStop setting attributes).on output := by
  cases hgradient : document.openGradient with
  | none => simp only [addStop, openGradient_on, hgradient]
  | some id =>
    simp only [addStop, openGradient_on, frame_on, gradients_on, hgradient]
    rfl

omit [Scalar α] in
theorem shapeContext_on (setting : Setting α) (document : Document α) (output : Array (Operator α))
    (style : Style α) : (document.on output).shapeContext setting style = document.shapeContext setting style := rfl

theorem clipRegion_on (setting : Setting α) (document : Document α) (output : Array (Operator α)) (style : Style α)
    (box : Option (Box α)) :
    clipRegion setting (document.on output) style box = clipRegion setting document style box := by
  simp only [clipRegion, clipPaths_on]

theorem paintPath_on (setting : Setting α) (document : Document α) (output : Array (Operator α)) (path : Path α)
    (style : Style α) (transform : Matrix α) :
    paintPath setting (document.on output) path style transform = paintPath setting document path style transform := by
  simp only [paintPath, ResolvedPaint.read, frame_on, gradients_on, clipRegion_on]

theorem openUse_on (setting : Setting α) (document : Document α) (output : Array (Operator α))
    (attributes : Attributes) :
    (document.on output).openUse setting attributes = document.openUse setting attributes := by
  have hfound : (document.on output).findUse? attributes = document.findUse? attributes := rfl
  simp only [openUse, hfound, expanding_on]
  rfl

theorem openClipElement_on (setting : Setting α) (document : Document α) (output : Array (Operator α))
    (clip : ClipCapture α) (kind : ElementKind) (attributes : Attributes) :
    (document.on output).openClipElement setting clip kind attributes =
      ((document.openClipElement setting clip kind attributes).1.on output,
        (document.openClipElement setting clip kind attributes).2) := by
  cases kind with
  | shape shape =>
    simp only [openClipElement, shapeContext, frame_on]
    split <;> rfl
  | _ => rfl

end Document

/-- How far a run moves the position where the text goes on. -/
def TextRun.advance [Scalar α] (run : TextRun α) : α :=
  match run.direction with
  | .leftToRight => run.width
  | .rightToLeft => -run.width

/-- What brings the box of a drawing inside another one into its viewport, if that has an area. -/
def nestedFit [Scalar α] (viewport : Size α) (box : Option (Box α)) (hasArea : Bool) (attributes : Attributes) :
    Matrix α :=
  match box, hasArea with
  | some box, true => (ViewportFit.ofBox viewport box (aspectRatio attributes)).matrix box
  | _, _ => .identity

/-- A handler writes the same operators whatever has been written and registered before, but for their numbers. -/
def Adds (handler : Document α → StateM (Ledger α) (Document α)) (document : Document α) : Prop :=
  ∃ (sheet : Sheet α) (next : Document α), ∀ output ledger,
    handler (document.on output) ledger = (next.on (output ++ sheet.after ledger), ledger.append sheet.added)

/-- The same of a handler that tells something besides, which does not depend on what has been before. -/
def AddsWith (handler : Document α → StateM (Ledger α) (Document α × β)) (document : Document α) : Prop :=
  ∃ (sheet : Sheet α) (next : Document α) (result : β), ∀ output ledger,
    handler (document.on output) ledger =
      ((next.on (output ++ sheet.after ledger), result), ledger.append sheet.added)

namespace Adds

variable {handler : Document α → StateM (Ledger α) (Document α)} {document : Document α}

theorem grows (hhandler : Adds handler document) : Grows (handler document) := by
  obtain ⟨sheet, next, hsheet⟩ := hhandler
  exact .of_append fun ledger => congrArg Prod.snd (hsheet document.output ledger)

theorem of_fills {action : StateM (Ledger α) (List (Operator α))} (haction : Fills action) (next : Document α)
    (h : ∀ output, handler (document.on output) =
      action >>= fun operators => pure ((next.on output).write operators)) : Adds handler document := by
  obtain ⟨sheet, hsheet⟩ := haction
  exact ⟨sheet, next, fun output ledger => by rw [h, bind_apply, hsheet]; rfl⟩

/-- Nothing is registered. -/
theorem of_plain {operators : List (Operator α)} (hplain : ArePlain operators) (next : Document α)
    (h : ∀ output, handler (document.on output) = pure ((next.on output).write operators)) :
    Adds handler document := .of_fills (.plain hplain) next h

/-- Nothing is written. -/
theorem of_pure (next : Document α) (h : ∀ output, handler (document.on output) = pure (next.on output)) :
    Adds handler document := .of_plain .nil next h

/-- What is done to the document afterwards. -/
theorem andThen (hhandler : Adds handler document) {change : Document α → Document α}
    {operators : List (Operator α)} (hplain : ArePlain operators)
    (hchange : ∀ (next : Document α) output, change (next.on output) = (change next).on (output ++ operators)) :
    Adds (fun document => handler document >>= fun next => pure (change next)) document := by
  obtain ⟨sheet, next, hsheet⟩ := hhandler
  refine ⟨sheet.append (.plain operators hplain), change next, fun output ledger => ?_⟩
  simp only [bind_apply, pure_apply, hsheet, hchange, Sheet.append_after, Sheet.plain_after]
  refine Prod.ext (congrArg (change next).on (Array.ext' ?_)) ?_
  · simp only [Array.toList_appendList, List.append_assoc]
  · exact congrArg ledger.append (Ledger.append_empty sheet.added).symm

variable [Scalar α] (setting : Setting α) (document : Document α) (attributes : Attributes)

theorem flushText (atEnd : Bool) : Adds (Document.flushText setting · atEnd) document := by
  cases htext : document.text with
  | none =>
    refine .of_pure document fun output => ?_
    simp only [Document.flushText, Document.text_on, htext]
  | some state =>
    by_cases hempty : (visibleText state.pending state.collapse atEnd).isEmpty = true
    · refine .of_pure { document with text := some { state with pending := "" } } fun output => ?_
      simp only [Document.flushText, Document.text_on, htext, hempty, if_true]
      rfl
    · let value := visibleText state.pending state.collapse atEnd
      let run := TextRun.ofStyle value state.x (setting.pageHeight - state.y) document.frame.style
      let next : TextState α :=
        { state with x := state.x + run.advance, pending := "", collapse := value.toList.getLast? == some ' ' }
      have hrun : Fills (Ledger.layOut run >>= fun _ => paintRun document.frame run) :=
        .of_tells (.layOut run) fun _ => .paintRun document.frame run
      refine .of_fills hrun { document with text := some next } fun output => ?_
      simp only [Document.flushText, Document.text_on, Document.frame_on, htext, hempty, Bool.false_eq_true,
        if_false, bind_assoc]
      rfl

theorem close (closing : Closing α) : Adds (Document.close setting · closing) document := by
  have hrestore : ArePlain [(.restore : Operator α)] := .singleton rfl
  cases closing with
  | nothing => exact .of_pure document fun _ => rfl
  | scope previous => exact .of_plain hrestore { document with frame := previous } fun _ => rfl
  | nestedSvg previous =>
    exact .of_plain hrestore { document with frame := previous, svgDepth := document.svgDepth - 1 } fun _ => rfl
  | text previous outer => exact (flushText setting document true).andThen hrestore fun _ _ => rfl
  | span previous => exact (flushText setting document false).andThen .nil fun _ _ => rfl
  | gradient => exact .of_pure { document with openGradient := none } fun _ => rfl
  | clipPath => exact .of_pure { document with clip := none } fun _ => rfl
  | clipElement matrix =>
    exact .of_pure { document with clip := document.clip.map fun clip => { clip with matrix } } fun _ => rfl
  | definitions => exact .of_pure { document with definitionsDepth := document.definitionsDepth - 1 } fun _ => rfl

theorem endElement (element : OpenElement α) (name : String) :
    Adds (Document.endElement setting · element name) document := by
  let recorded := if element.recorded then document.recordEnd name else document
  have hrecorded (output : Array (Operator α)) :
      (if element.recorded then (document.on output).recordEnd name else document.on output) =
        recorded.on output := by
    cases hkept : element.recorded with
    | true => simp only [recorded, hkept, if_true]; rfl
    | false => simp only [recorded, hkept, Bool.false_eq_true, if_false]
  obtain ⟨sheet, next, hsheet⟩ := close setting recorded element.closing
  refine ⟨sheet, if element.defines then next.finishRecording else next, fun output ledger => ?_⟩
  simp only [Document.endElement, hrecorded, bind_apply, pure_apply, hsheet]
  split
  · rw [Document.finishRecording_on]
  · rfl

theorem drawShape (kind : ShapeKind) : Adds (Document.drawShape setting · kind attributes) document := by
  let style := document.frame.style.resolve attributes setting.options.dpi
  have hcontext (output : Array (Operator α)) :
      (document.on output).shapeContext setting style = document.shapeContext setting style := rfl
  cases hpath : (document.shapeContext setting style).path? attributes kind with
  | none =>
    refine .of_pure document fun output => ?_
    simp only [Document.drawShape, Document.frame_on, hcontext, style, hpath]
  | some path =>
    by_cases hseen : (style.isInvisible || document.frame.hidden) = true
    · refine .of_pure document fun output => ?_
      simp only [Document.drawShape, Document.frame_on, hcontext, style, hpath, hseen, if_true]
    · have hpainted := Fills.paintPath setting document path style
        (Transform.read ((attributes.get? "transform").getD ""))
      refine .of_fills hpainted document fun output => ?_
      simp only [Document.drawShape, Document.frame_on, hcontext, style, hpath, hseen, Bool.false_eq_true, if_false,
        Document.paintPath_on]

theorem drawPixels (style : Style α) (transform : Matrix α) (box : Box α) (bytes : List UInt8) :
    Adds (Document.drawPixels setting · style transform box bytes) document := by
  let opacity := document.frame.opacity * style.number .opacity
  let placement : Matrix α :=
    ⟨box.width, 0, 0, box.height, box.x, setting.pageHeight - box.y - box.height⟩
  have hsave : ArePlain [(.save : Operator α)] := .singleton rfl
  have hrestore : ArePlain [(.restore : Operator α)] := .singleton rfl
  have hpainted : Fills (do
      let clip ← clipRegion setting document style (some box)
      let state ← graphicsState document.frame style opacity opacity
      let painted ← imageOperators placement bytes
      return [.save] ++ transform.operators setting.pageHeight ++ clip ++ state ++ painted ++ [.restore]) := by
    refine .of_tells (.clipRegion ..) fun ledger => ?_
    have hclipped := (hsave.append (.transform transform setting.pageHeight)).append
      (.clipRegion setting document style (some box) ledger)
    exact (Fills.graphicsState ..).framed_append (.imageOperators placement bytes) hclipped hrestore fun _ _ => rfl
  exact .of_fills hpainted document fun _ => rfl

end Adds

namespace AddsWith

variable {handler : Document α → StateM (Ledger α) (Document α × β)} {document : Document α}

theorem grows (hhandler : AddsWith handler document) : Grows (handler document) := by
  obtain ⟨sheet, next, result, hsheet⟩ := hhandler
  exact .of_append fun ledger => congrArg Prod.snd (hsheet document.output ledger)

theorem of_fills {action : StateM (Ledger α) (List (Operator α))} (haction : Fills action) (next : Document α)
    (result : β) (h : ∀ output, handler (document.on output) =
      action >>= fun operators => pure ((next.on output).write operators, result)) : AddsWith handler document := by
  obtain ⟨sheet, hsheet⟩ := haction
  exact ⟨sheet, next, result, fun output ledger => by rw [h, bind_apply, hsheet]; rfl⟩

theorem of_tells {told : StateM (Ledger α) β} (htold : Tells told) (next : Document α)
    (h : ∀ output, handler (document.on output) = told >>= fun result => pure (next.on output, result)) :
    AddsWith handler document := by
  obtain ⟨result, added, hnone, hresult⟩ := htold
  exact ⟨.telling added hnone, next, result, fun output ledger => by rw [h, bind_apply, hresult]; rfl⟩

theorem of_pure (next : Document α) (result : β)
    (h : ∀ output, handler (document.on output) = pure (next.on output, result)) : AddsWith handler document :=
  .of_tells (.pure result) next h

theorem of_adds {first : Document α → StateM (Ledger α) (Document α)} (hfirst : Adds first document) (result : β)
    (h : ∀ output, handler (document.on output) =
      first (document.on output) >>= fun next => pure (next, result)) : AddsWith handler document := by
  obtain ⟨sheet, next, hsheet⟩ := hfirst
  exact ⟨sheet, next, result, fun output ledger => by rw [h, bind_apply, hsheet]; rfl⟩

theorem congr {other : Document α → StateM (Ledger α) (Document α × β)}
    (h : ∀ output, handler (document.on output) = other (document.on output)) (hother : AddsWith other document) :
    AddsWith handler document := by
  obtain ⟨sheet, next, result, hsheet⟩ := hother
  exact ⟨sheet, next, result, fun output ledger => by rw [h, hsheet]⟩

/-- What is told may be told in other words. -/
theorem map (hhandler : AddsWith handler document) (view : β → γ) :
    AddsWith (fun document => handler document >>= fun next => pure (next.1, view next.2)) document := by
  obtain ⟨sheet, next, result, hsheet⟩ := hhandler
  exact ⟨sheet, next, view result, fun output ledger => by simp only [bind_apply, pure_apply, hsheet]⟩

variable [Scalar α] (setting : Setting α) (document : Document α) (attributes : Attributes)

theorem openGroup : AddsWith (Document.openGroup setting · attributes) document := by
  let frame := document.frame
  let style := frame.style.resolve attributes setting.options.dpi
  let transform : Matrix α := Transform.read ((attributes.get? "transform").getD "")
  let opacity := frame.opacity * style.number .opacity
  have hsave : ArePlain [(.save : Operator α)] := .singleton rfl
  have hprologue : Fills (do
      let clip ← clipRegion setting document style none
      let state ← graphicsState frame style opacity opacity
      return [.save] ++ transform.operators setting.pageHeight ++ clip ++ state) := by
    refine .of_tells (.clipRegion ..) fun ledger => ?_
    have hclipped := (hsave.append (.transform transform setting.pageHeight)).append
      (.clipRegion setting document style none ledger)
    exact (Fills.graphicsState ..).framed hclipped .nil fun _ => (List.append_nil _).symm
  let inner : Frame α :=
    { frame with style, ctm := frame.ctm.multiply transform, opacity, blendMode := frame.blend style.blendMode }
  refine .of_fills hprologue (document.enter inner) (.scope frame) fun output => ?_
  simp only [Document.openGroup, Document.frame_on, Document.clipRegion_on, bind_assoc, pure_bind]
  rfl

theorem openNestedSvg : AddsWith (Document.openNestedSvg setting · attributes) document := by
  let frame := document.frame
  let dpi := setting.options.dpi
  let specified := frame.style.resolve attributes dpi
  let length (name : String) (default : Option String) (reference : α) : α :=
    (((attributes.get? name).or default) >>= fun value =>
      Css.Length.read? value reference (specified.lengthContext dpi)).getD 0
  let x := length "x" none frame.viewport.width
  let y := length "y" none frame.viewport.height
  let width := length "width" (some "100%") frame.viewport.width
  let height := length "height" (some "100%") frame.viewport.height
  let hasArea := decide (0 < width) && decide (0 < height)
  let style := if hasArea then specified else specified.setText .display "none"
  let box : Option (Box α) := viewBox? attributes
  let transform : Matrix α := Transform.read ((attributes.get? "transform").getD "")
  let inner := (Matrix.shift x y).multiply (nestedFit ⟨width, height⟩ box hasArea attributes)
  let opacity := frame.opacity * style.number .opacity
  let viewportClip :=
    if style.text .overflow != "visible" && hasArea then
      Box.clipOperators ⟨x, y, width, height⟩ setting.pageHeight
    else
      []
  let depth := document.svgDepth + 1
  have hsave : ArePlain [(.save : Operator α)] := .singleton rfl
  have hviewport : ArePlain viewportClip := by
    simp only [viewportClip]
    split
    · exact (ArePlain.singleton rfl).append (.singleton rfl)
    · exact .nil
  have hprologue : Fills (do
      let clip ← clipRegion setting document style none
      let state ← graphicsState frame style opacity opacity
      Ledger.notify (.nested depth)
      return [.save] ++ transform.operators setting.pageHeight ++ viewportClip ++ clip ++ state ++
        inner.operators setting.pageHeight) := by
    refine .of_tells (.clipRegion ..) fun ledger => ?_
    have hclipped := ((hsave.append (.transform transform setting.pageHeight)).append hviewport).append
      (.clipRegion setting document style none ledger)
    have hstate := Fills.before_tells (.graphicsState frame style opacity opacity) (.notify (.nested depth))
    exact hstate.framed hclipped (.transform inner setting.pageHeight) fun _ => rfl
  let entered : Frame α :=
    { frame with
      style
      viewport := (box.map Box.size).getD ⟨width, height⟩
      ctm := (frame.ctm.multiply transform).multiply inner
      opacity
      blendMode := frame.blend style.blendMode }
  refine .of_fills hprologue ({ document with svgDepth := depth }.enter entered) (.nestedSvg frame)
    fun output => ?_
  simp only [Document.openNestedSvg, Document.frame_on, Document.clipRegion_on, bind_assoc, pure_bind]
  rfl

theorem openText : AddsWith (Document.openText setting · attributes) document := by
  let frame := document.frame
  let style := frame.style.resolve attributes setting.options.dpi
  let context := style.lengthContext setting.options.dpi
  let transform : Matrix α := Transform.read ((attributes.get? "transform").getD "")
  have hsave : ArePlain [(.save : Operator α)] := .singleton rfl
  have hprologue : Fills (do
      let clip ← clipRegion setting document style none
      return [.save] ++ transform.operators setting.pageHeight ++ clip) :=
    .of_tells (.clipRegion ..) fun ledger => .plain <|
      (hsave.append (.transform transform setting.pageHeight)).append (.clipRegion setting document style none ledger)
  let text : TextState α :=
    { depth := document.openElements.length
      x := (Document.readPosition? attributes "x" frame.viewport.width context).getD 0 +
        Document.readShift attributes "dx"
      y := (Document.readPosition? attributes "y" frame.viewport.height context).getD 0 +
        Document.readShift attributes "dy"
      pending := ""
      collapse := true }
  let inner : Frame α := { frame with style, ctm := frame.ctm.multiply transform }
  refine .of_fills hprologue ({ document with text := some text }.enter inner) (.text frame document.text)
    fun output => ?_
  simp only [Document.openText, Document.frame_on, Document.text_on, Document.clipRegion_on, bind_assoc, pure_bind]
  rfl

theorem openSpan : AddsWith (Document.openSpan setting · attributes) document := by
  cases htext : document.text with
  | none =>
    obtain ⟨sheet, next, closing, hsheet⟩ := openText setting document attributes
    refine ⟨sheet, next, closing, fun output ledger => .trans ?_ (hsheet output ledger)⟩
    have houtside : (document.on output).text.isNone = true := by rw [Document.text_on, htext, Option.isNone_none]
    exact congrFun (if_pos houtside) ledger
  | some state =>
    let frame := document.frame
    let style := frame.style.resolve attributes setting.options.dpi
    let context := style.lengthContext setting.options.dpi
    obtain ⟨sheet, flushed, hsheet⟩ := Adds.flushText setting document false
    let moved := flushed.text.map fun state =>
      { state with
        x := (Document.readPosition? attributes "x" frame.viewport.width context).getD state.x +
          Document.readShift attributes "dx"
        y := (Document.readPosition? attributes "y" frame.viewport.height context).getD state.y +
          Document.readShift attributes "dy" }
    refine ⟨sheet, { flushed with text := moved }.enter { frame with style }, .span frame, fun output ledger => ?_⟩
    have hinside : ¬(document.on output).text.isNone = true := by
      rw [Document.text_on, htext, Option.isNone_some]
      exact Bool.false_ne_true
    simp only [Document.openSpan, if_neg hinside, Document.frame_on, bind_apply, pure_apply, hsheet]
    rfl

theorem openImage : AddsWith (Document.openImage setting · attributes) document := by
  let frame := document.frame
  let style := frame.style.resolve attributes setting.options.dpi
  let context := document.shapeContext setting style
  let box : Box α :=
    ⟨context.horizontal attributes "x", context.vertical attributes "y",
      context.horizontal attributes "width", context.vertical attributes "height"⟩
  let href := Text.trim (attributes.href?.getD "")
  let transform : Matrix α := Transform.read ((attributes.get? "transform").getD "")
  by_cases hskipped : (href.isEmpty || box.width ≤ 0 || box.height ≤ 0 || style.isInvisible || frame.hidden) = true
  · refine .of_pure document .inert fun output => ?_
    simp only [Document.openImage, Document.frame_on, Document.shapeContext_on]
    exact if_pos hskipped
  · by_cases hreference : isDocumentReference href = true
    · refine .of_tells (.openEmbedded setting href box (frame.ctm.multiply transform)) document fun output => ?_
      simp only [Document.openImage, Document.frame_on, Document.shapeContext_on]
      exact (if_neg hskipped).trans (if_pos hreference)
    · cases hload : setting.options.load href with
      | none =>
        refine .of_tells (.leaveOut (.missingImage href)) document fun output => ?_
        simp only [Document.openImage, Document.frame_on, Document.shapeContext_on]
        refine (if_neg hskipped).trans ((if_neg hreference).trans ?_)
        rw [hload]
      | some bytes =>
        refine .of_adds (.drawPixels setting document style transform box bytes) .inert fun output => ?_
        simp only [Document.openImage, Document.frame_on, Document.shapeContext_on]
        refine (if_neg hskipped).trans ((if_neg hreference).trans ?_)
        rw [hload]

theorem openUse : AddsWith (fun document => do return (document, ← document.openUse setting attributes)) document :=
  .of_tells (.openUse setting document attributes) document fun output => by rw [Document.openUse_on]

theorem openDrawn (kind : ElementKind) : AddsWith (Document.openDrawn setting · kind attributes) document := by
  cases kind with
  | svg => exact (openNestedSvg setting document attributes).map Opening.element
  | group => exact (openGroup setting document attributes).map Opening.element
  | text => exact (openText setting document attributes).map Opening.element
  | span => exact (openSpan setting document attributes).map Opening.element
  | use => exact openUse setting document attributes
  | shape shape => exact .of_adds (.drawShape setting document attributes shape) .inert fun _ => rfl
  | image => exact openImage setting document attributes
  | _ => exact .of_pure document .inert fun _ => rfl

theorem openElement (kind : ElementKind) : AddsWith (Document.openElement setting · kind attributes) document := by
  cases hclip : document.clip with
  | some clip =>
    have hkept (kind : ElementKind) (h : ∀ output, Document.openElement setting (document.on output) kind attributes =
        Document.opened (pure ((document.on output).openClipElement setting clip kind attributes))) :
        AddsWith (Document.openElement setting · kind attributes) document := by
      let opened := document.openClipElement setting clip kind attributes
      refine .of_pure opened.1 (.element opened.2) fun output => ?_
      rw [h, Document.opened, Document.openClipElement_on, pure_bind]
    cases kind with
    | gradient | stop | clipPath =>
      refine .of_pure document .inert fun output => ?_
      simp only [Document.openElement, Document.clip_on, hclip]
    | use =>
      refine .congr (fun output => ?_) (openUse setting document attributes)
      simp only [Document.openElement, Document.clip_on, hclip]
    | _ => exact hkept _ fun output => by simp only [Document.openElement, Document.clip_on, hclip]
  | none =>
    cases hkind : kind.isDrawn with
    | true =>
      by_cases hdefinitions : 0 < document.definitionsDepth
      · refine .of_pure document .inert fun output => ?_
        cases kind with
        | gradient | stop | clipPath | defs | symbol => cases hkind
        | _ =>
          simp only [Document.openElement, Document.clip_on, hclip, Document.definitionsDepth_on, hdefinitions, if_true]
      · have hdrawing (output : Array (Operator α)) : (document.on output).isDrawing = true := by
          rw [Document.isDrawing_on, Document.isDrawing, hclip, Nat.eq_zero_of_not_pos hdefinitions]
          rfl
        exact .congr (fun output => Document.openElement_of_isDrawn (hdrawing output) hkind attributes)
          (openDrawn setting document attributes kind)
    | false =>
      cases kind with
      | gradient gradient =>
        refine .of_pure (document.openGradientElement gradient attributes) (.element .gradient) fun output => ?_
        simp only [Document.openElement, Document.clip_on, hclip]
        rfl
      | stop =>
        refine .of_pure (document.addStop setting attributes) .inert fun output => ?_
        simp only [Document.openElement, Document.clip_on, hclip, Document.addStop_on]
      | clipPath =>
        refine .of_pure (document.openClipPath attributes) (.element .clipPath) fun output => ?_
        simp only [Document.openElement, Document.clip_on, hclip]
        rfl
      | defs | symbol =>
        refine .of_pure { document with definitionsDepth := document.definitionsDepth + 1 } (.element .definitions)
          fun output => ?_
        simp only [Document.openElement, Document.clip_on, hclip]
        rfl
      | _ => cases hkind

theorem beginTag (name : String) : AddsWith (Document.beginTag setting · name attributes) document := by
  let kind := ElementKind.ofName name
  obtain ⟨next, begun, hbegun⟩ := document.recordStart_on name attributes kind
  have hopened := (openElement setting next attributes kind).map fun opening =>
    (⟨opening, begun.1, begun.2⟩ : Begun α)
  obtain ⟨sheet, opened, result, hsheet⟩ := hopened
  refine ⟨sheet, opened, result, fun output ledger => .trans ?_ (hsheet output ledger)⟩
  simp only [Document.beginTag, hbegun, kind]

end AddsWith

/-- The root of a document is opened like other elements, unless it has no area. -/
theorem Document.openRoot_adds [Scalar α] (setting : Setting α) (document : Document α) (attributes : Attributes) :
    (∃ failure, ∀ output ledger,
        ((document.on output).openRoot setting attributes).run ledger = (.error failure, ledger)) ∨
      ∃ (sheet : Sheet α) (next : Document α) (closing : Closing α), ∀ output ledger,
        ((document.on output).openRoot setting attributes).run ledger =
          (.ok (next.on (output ++ sheet.after ledger), closing), ledger.append sheet.added) := by
  cases hsize : rootSize setting document.frame attributes with
  | error failure =>
    refine .inl ⟨failure, fun output ledger => ?_⟩
    simp only [openRoot, frame_on, hsize]
    rfl
  | ok size =>
    let style := document.frame.style.resolve attributes setting.options.dpi
    let opacity := style.number .opacity
    let fit := RootFit.ofAttributes setting attributes
      (intrinsicSize attributes (style.lengthContext setting.options.dpi)) size
    let inner : Frame α :=
      { style
        viewport := fit.viewport
        ctm := setting.placement.matrix.multiply fit.matrix
        opacity
        blendMode := style.blendMode
        hidden := false }
    have hsave : ArePlain [(.save : Operator α)] := .singleton rfl
    have hbox : ArePlain [.rect (drawingBox setting size), .paint .clip] :=
      (ArePlain.singleton rfl).append (.singleton rfl)
    have hfitted := ((hsave.append (.transform setting.placement.matrix setting.pageHeight)).append hbox).append
      (.transform fit.matrix setting.pageHeight)
    have hprologue : Fills (do
        Ledger.notify (.drawing (size.width, size.height) setting.depth)
        let state ← graphicsState document.frame style opacity opacity
        return [.save] ++ setting.placement.matrix.operators setting.pageHeight ++
          [.rect (drawingBox setting size), .paint .clip] ++ fit.matrix.operators setting.pageHeight ++ state) :=
      .of_tells (.notify _) fun _ =>
        (Fills.graphicsState ..).framed hfitted .nil fun _ => (List.append_nil _).symm
    obtain ⟨sheet, hsheet⟩ := hprologue
    refine .inr ⟨sheet, document.enter inner, .scope document.frame, fun output ledger => ?_⟩
    have hsize' : rootSize setting (document.on output).frame attributes = .ok size := hsize
    obtain ⟨hwritten, hregistered⟩ := Prod.mk.inj (hsheet ledger)
    rw [openRoot_run hsize', ← hwritten, ← hregistered]
    rfl

theorem Document.openRoot_extends [Scalar α] (setting : Setting α) (document : Document α) (attributes : Attributes)
    (ledger : Ledger α) : ledger.Extends ((document.openRoot setting attributes).run ledger).2 := by
  obtain ⟨failure, hfailed⟩ | ⟨sheet, next, closing, hopened⟩ := document.openRoot_adds setting attributes
  · have hsame : ((document.openRoot setting attributes).run ledger).2 = ledger :=
      congrArg Prod.snd (hfailed document.output ledger)
    rw [hsame]
    exact List.prefix_refl _
  · have hadded : ((document.openRoot setting attributes).run ledger).2 = ledger.append sheet.added :=
      congrArg Prod.snd (hopened document.output ledger)
    rw [hadded]
    exact ledger.extends_append sheet.added

end SvgPage
