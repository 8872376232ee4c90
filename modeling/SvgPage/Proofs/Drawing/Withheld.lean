import SvgPage.Proofs.Drawing.Records

namespace SvgPage

/-- A document to which nothing has been added that is drawn, and whose content is still drawn alike. -/
structure Document.Withholds {α : Type} (before after : Document α) : Prop where
  output : after.output = before.output
  frame : after.frame = before.frame
  text : after.text = before.text

namespace Document.Withholds

variable {α : Type} {first second third : Document α}

@[refl] theorem refl (document : Document α) : Withholds document document := ⟨rfl, rfl, rfl⟩

@[trans] theorem trans (h : Withholds first second) (hnext : Withholds second third) :
    Withholds first third :=
  ⟨hnext.output.trans h.output, hnext.frame.trans h.frame, hnext.text.trans h.text⟩

end Document.Withholds

/-- Whether an end tag paints nothing and leaves the frame and the text as they are. -/
def Closing.isQuiet {α : Type} : Closing α → Bool
  | .nothing | .gradient | .clipPath | .clipElement _ | .definitions => true
  | .scope _ | .nestedSvg _ | .text .. | .span _ => false

/-- Whether a start tag comes to an element with a quiet end tag, or to tags that are handled again. -/
def Opening.isQuiet {α : Type} : Opening α → Bool
  | .element closing => closing.isQuiet
  | .expansion .. => true
  | .embedding .. => false

namespace Document

variable {α : Type}

section Tags

variable {document result : Document α} {name : String}

theorem Records.withholds {attributes : Attributes} {recorded defines : Bool}
    (h : Records document name attributes result recorded defines) : Withholds document result := by
  cases h <;> exact ⟨rfl, rfl, rfl⟩

theorem Records.mode_eq {attributes : Attributes} {recorded defines : Bool}
    (h : Records document name attributes result recorded defines) :
    result.definitionsDepth = document.definitionsDepth ∧ result.clip = document.clip :=
  ⟨congrArg Scope.definitionsDepth h.scope_eq, congrArg Scope.clip h.scope_eq⟩

theorem finishRecording_withholds (document : Document α) :
    Withholds document document.finishRecording := by
  rw [finishRecording]
  split <;> exact ⟨rfl, rfl, rfl⟩

theorem addText_withholds (h : document.isDrawing = false) (text : String) :
    Withholds document (document.addText text) := by
  simp only [addText, h]
  split
  next hdrawing => cases hdrawing
  · split <;> exact ⟨rfl, rfl, rfl⟩

end Tags

variable [Scalar α]

/-- A quiet end tag draws and registers nothing. -/
theorem close_withholds (setting : Setting α) (document : Document α) {closing : Closing α}
    (h : closing.isQuiet = true) (ledger : Ledger α) :
    let closed := document.close setting closing ledger
    Withholds document closed.1 ∧ closed.2 = ledger := by
  cases closing with
  | nothing | gradient | clipPath | clipElement _ | definitions => exact ⟨⟨rfl, rfl, rfl⟩, rfl⟩
  | scope _ | nestedSvg _ | text _ _ | span _ => cases h

theorem endElement_withholds (setting : Setting α) (document : Document α) {element : OpenElement α}
    (h : element.closing.isQuiet = true) (name : String) (ledger : Ledger α) :
    let ended := document.endElement setting element name ledger
    Withholds document ended.1 ∧ ended.2 = ledger := by
  let recorded := if element.recorded then document.recordEnd name else document
  have hrecorded : Withholds document recorded := by
    dsimp only [recorded]
    split <;> exact ⟨rfl, rfl, rfl⟩
  obtain ⟨hclosed, hledger⟩ := close_withholds setting recorded h ledger
  have hended : (document.endElement setting element name ledger).1 =
      if element.defines then (recorded.close setting element.closing ledger).1.finishRecording
      else (recorded.close setting element.closing ledger).1 := rfl
  refine ⟨(hrecorded.trans hclosed).trans ?_, hledger⟩
  rw [hended]
  split
  · exact finishRecording_withholds _
  · exact .refl _

theorem openClipElement_withholds (setting : Setting α) (document : Document α) (clip : ClipCapture α)
    (kind : ElementKind) (attributes : Attributes) :
    let kept := document.openClipElement setting clip kind attributes
    Withholds document kept.1 ∧ kept.2.isQuiet = true := by
  cases kind with
  | shape shape =>
    simp only [openClipElement]
    split <;> exact ⟨⟨rfl, rfl, rfl⟩, rfl⟩
  | _ => exact ⟨⟨rfl, rfl, rfl⟩, rfl⟩

/-- A use on its own registers nothing. -/
theorem openUse_withholds (setting : Setting α) (document : Document α) (attributes : Attributes)
    (ledger : Ledger α) :
    let used := document.openUse setting attributes ledger
    used.1.isQuiet = true ∧ used.2.resources = ledger.resources := by
  have hleft (notice : Notice α) :
      let left := Opening.leaveOut notice ledger
      left.1.isQuiet = true ∧ left.2.resources = ledger.resources := ⟨rfl, rfl⟩
  cases hfound : document.findUse? attributes with
  | none =>
    rw [openUse, hfound]
    exact hleft _
  | some found =>
    obtain ⟨id, definition⟩ := found
    cases definition with
    | pending =>
      rw [openUse, hfound]
      exact hleft _
    | complete tags =>
      simp only [openUse, hfound]
      split
      · exact hleft _
      · split
        · exact hleft _
        · split <;> exact ⟨rfl, rfl⟩

/-- Where nothing is drawn, elements of any kind are kept or left out. -/
theorem openElement_withholds (setting : Setting α) {document : Document α}
    (h : document.isDrawing = false) (kind : ElementKind) (attributes : Attributes) (ledger : Ledger α) :
    let begun := document.openElement setting kind attributes ledger
    Withholds document begun.1.1 ∧ begun.1.2.isQuiet = true ∧
      begun.2.resources = ledger.resources := by
  have hused := openUse_withholds setting document attributes ledger
  cases hclip : document.clip with
  | some clip =>
    obtain ⟨hkept, hquiet⟩ := openClipElement_withholds setting document clip kind attributes
    simp only [openElement, hclip]
    cases kind with
    | gradient _ | stop | clipPath => exact ⟨.refl _, rfl, rfl⟩
    | use => exact ⟨.refl _, hused⟩
    | _ => exact ⟨hkept, hquiet, rfl⟩
  | none =>
    have hdefinitions : 0 < document.definitionsDepth := by
      rw [isDrawing, hclip, Option.isNone_none, Bool.and_true, beq_eq_false_iff_ne] at h
      omega
    simp only [openElement, hclip, if_pos hdefinitions]
    cases kind with
    | stop =>
      obtain ⟨gradients, hadded⟩ := document.addStop_eq setting attributes
      rw [hadded]
      exact ⟨⟨rfl, rfl, rfl⟩, rfl, rfl⟩
    | _ => exact ⟨⟨rfl, rfl, rfl⟩, rfl, rfl⟩

theorem beginTag_withholds (setting : Setting α) {document : Document α} (h : document.isDrawing = false)
    (name : String) (attributes : Attributes) (ledger : Ledger α) :
    let begun := document.beginTag setting name attributes ledger
    Withholds document begun.1.1 ∧ begun.1.2.opening.isQuiet = true ∧
      begun.2.resources = ledger.resources := by
  have hrecords := recordStart_records document name attributes (.ofName name)
  have hdrawing : (document.recordStart name attributes (.ofName name)).1.isDrawing = false := by
    obtain ⟨hdefinitions, hclip⟩ := hrecords.mode_eq
    rw [isDrawing, hdefinitions, hclip]
    exact h
  obtain ⟨hopened, hquiet, hresources⟩ :=
    openElement_withholds setting hdrawing (.ofName name) attributes ledger
  exact ⟨hrecords.withholds.trans hopened, hquiet, hresources⟩

end Document

end SvgPage
