import SvgPage.Proofs.Drawing.Draws
import SvgPage.Proofs.Drawing.Outlined
import SvgPage.Proofs.Drawing.Withheld

namespace SvgPage

variable {α : Type}

/-- Whether an element is the place where a document is to be drawn. -/
def Opening.isEmbedding : Opening α → Bool
  | .embedding .. => true
  | _ => false

/-- A document to which operators may have been added, none of which leaves marks on the page. -/
def Document.Unmarked (before after : Document α) : Prop :=
  ∃ operators, after.output.toList = before.output.toList ++ operators ∧
    ∀ operator ∈ operators, operator.isPainting = false

namespace Document.Unmarked

variable {first second third : Document α}

theorem of_output (h : second.output = first.output) : first.Unmarked second :=
  ⟨[], by rw [h, List.append_nil], List.forall_mem_nil _⟩

@[refl] theorem refl (document : Document α) : document.Unmarked document := of_output rfl

@[trans] theorem trans (h : first.Unmarked second) (hnext : second.Unmarked third) : first.Unmarked third := by
  obtain ⟨earlier, hearlier, hfirst⟩ := h
  obtain ⟨later, hlater, hsecond⟩ := hnext
  refine ⟨earlier ++ later, ?_, List.forall_mem_append.2 ⟨hfirst, hsecond⟩⟩
  rw [hlater, hearlier, List.append_assoc]

/-- Only what is written counts. -/
theorem of_write {operators : List (Operator α)} (h : second.output = (first.write operators).output)
    (hoperators : ∀ operator ∈ operators, operator.isPainting = false) : first.Unmarked second :=
  ⟨operators, by rw [h, write_output], hoperators⟩

end Document.Unmarked

/-- A hidden document to which operators may have been added that leave no marks on the page. -/
structure Document.Conceals (before after : Document α) : Prop where
  unmarked : before.Unmarked after
  hidden : after.frame.hidden = true

theorem Document.Conceals.of_same {before after : Document α} (houtput : after.output = before.output)
    (hframe : after.frame = before.frame) (hhidden : before.frame.hidden = true) : before.Conceals after :=
  ⟨.of_output houtput, (congrArg Frame.hidden hframe).trans hhidden⟩

variable [Scalar α]

theorem not_isPainting_clipRegion (setting : Setting α) (document : Document α) (style : Style α)
    (box : Option (Box α)) (ledger : Ledger α) :
    ∀ operator ∈ (clipRegion setting document style box ledger).1, operator.isPainting = false :=
  fun operator hmem =>
    Operator.isPainting_of_isLimiting (isLimiting_clipRegion setting document style box ledger operator hmem)

theorem paintRun_of_hidden {frame : Frame α} (h : frame.hidden = true) (run : TextRun α) (ledger : Ledger α) :
    paintRun frame run ledger = ([], ledger) := by
  simp only [paintRun, h, Bool.or_true, if_true, pure_apply]

namespace Document

/-- The size that an `svg` inside another one is to have, which is all of the viewport around it where nothing
    else is asked for. -/
def nestedSize (setting : Setting α) (document : Document α) (attributes : Attributes) : Size α :=
  let frame := document.frame
  let context := (frame.style.resolve attributes setting.options.dpi).lengthContext setting.options.dpi
  let length (name : String) (reference : α) : α :=
    (((attributes.get? name).or (some "100%")) >>= fun value =>
      Css.Length.read? value reference context).getD 0
  ⟨length "width" frame.viewport.width, length "height" frame.viewport.height⟩

/-- Whether an element that is drawn hides itself and its content: it is not displayed, or it is an `svg` inside
    another one and has no area. -/
def HidesContent (setting : Setting α) (document : Document α) (kind : ElementKind) (attributes : Attributes) :
    Prop :=
  (document.frame.style.resolve attributes setting.options.dpi).text .display = "none" ∨
    kind = .svg ∧ document.rootSeen = true ∧
      (¬ 0 < (document.nestedSize setting attributes).width ∨
        ¬ 0 < (document.nestedSize setting attributes).height)

theorem HidesContent.congr {setting : Setting α} {document other : Document α} {kind : ElementKind}
    {attributes : Attributes} (h : document.HidesContent setting kind attributes)
    (hframe : other.frame = document.frame) (hroot : other.rootSeen = document.rootSeen) :
    other.HidesContent setting kind attributes := by
  simp only [HidesContent, nestedSize, hframe, hroot]
  exact h

section Handlers

variable (setting : Setting α) (document : Document α) (attributes : Attributes) (ledger : Ledger α)

omit [Scalar α] in
/-- An element is hidden in a hidden one, and where it is not displayed. -/
theorem hidden_enter (frame : Frame α) :
    (document.enter frame).frame.hidden = (document.frame.hidden || frame.style.text .display == "none") := rfl

theorem openGroup_hidden :
    (document.openGroup setting attributes ledger).1.1.frame.hidden = (document.frame.hidden ||
      (document.frame.style.resolve attributes setting.options.dpi).text .display == "none") := by
  simp only [openGroup, bind_apply, pure_apply]
  rfl

theorem openText_hidden :
    (document.openText setting attributes ledger).1.1.frame.hidden = (document.frame.hidden ||
      (document.frame.style.resolve attributes setting.options.dpi).text .display == "none") := by
  simp only [openText, bind_apply, pure_apply]
  rfl

theorem openSpan_hidden :
    (document.openSpan setting attributes ledger).1.1.frame.hidden = (document.frame.hidden ||
      (document.frame.style.resolve attributes setting.options.dpi).text .display == "none") := by
  rw [openSpan]
  split
  · exact openText_hidden setting document attributes ledger
  · obtain ⟨operators, text, -, -, hflushed⟩ := flushText_pending setting document false ledger
    simp only [bind_apply, pure_apply, hidden_enter, hflushed]
    rfl

theorem openNestedSvg_hidden :
    let size := document.nestedSize setting attributes
    (document.openNestedSvg setting attributes ledger).1.1.frame.hidden = (document.frame.hidden ||
      ((document.frame.style.resolve attributes setting.options.dpi).text .display == "none" ||
        !(decide (0 < size.width) && decide (0 < size.height)))) := by
  intro size
  have harea : (document.openNestedSvg setting attributes ledger).1.1.frame.hidden = (document.frame.hidden ||
      (if decide (0 < size.width) && decide (0 < size.height) then
        document.frame.style.resolve attributes setting.options.dpi
      else
        (document.frame.style.resolve attributes setting.options.dpi).setText .display "none").text .display ==
          "none") := by
    simp only [openNestedSvg, bind_apply, pure_apply]
    rfl
  rw [harea]
  cases decide (0 < size.width) && decide (0 < size.height) with
  | true => simp only [if_true, Bool.not_true, Bool.or_false]
  | false => simp [Style.setText]

theorem openGroup_unmarked : document.Unmarked (document.openGroup setting attributes ledger).1.1 := by
  simp only [openGroup, bind_apply, pure_apply]
  refine .of_write (enter_output ..) ?_
  simp only [List.forall_mem_append, List.forall_mem_singleton]
  exact ⟨⟨⟨rfl, not_isPainting_transform _ _⟩, not_isPainting_clipRegion _ _ _ _ _⟩,
    not_isPainting_graphicsState _ _ _ _ _⟩

theorem openNestedSvg_unmarked : document.Unmarked (document.openNestedSvg setting attributes ledger).1.1 := by
  have hviewport (clips : Bool) (box : Box α) :
      ∀ operator ∈ (if clips then box.clipOperators setting.pageHeight else []), operator.isPainting = false := by
    cases clips with
    | false => exact List.forall_mem_nil _
    | true =>
      exact fun operator hmem =>
        Operator.isPainting_of_isLimiting (isLimiting_clipOperators box setting.pageHeight operator hmem)
  simp only [openNestedSvg, bind_apply, pure_apply]
  refine .of_write (enter_output ..) ?_
  simp only [List.forall_mem_append, List.forall_mem_singleton]
  exact ⟨⟨⟨⟨⟨rfl, not_isPainting_transform _ _⟩, hviewport _ _⟩, not_isPainting_clipRegion _ _ _ _ _⟩,
    not_isPainting_graphicsState _ _ _ _ _⟩, not_isPainting_transform _ _⟩

theorem openText_unmarked : document.Unmarked (document.openText setting attributes ledger).1.1 := by
  simp only [openText, bind_apply, pure_apply]
  refine .of_write (enter_output ..) ?_
  simp only [List.forall_mem_append, List.forall_mem_singleton]
  exact ⟨⟨rfl, not_isPainting_transform _ _⟩, not_isPainting_clipRegion _ _ _ _ _⟩

variable {document}

theorem flushText_unmarked (hhidden : document.frame.hidden = true) (atEnd : Bool) :
    document.Unmarked (document.flushText setting atEnd ledger).1 := by
  cases htext : document.text with
  | none => simp only [flushText, htext, pure_apply, Unmarked.refl]
  | some state =>
    simp only [flushText, htext]
    split
    · exact .of_output rfl
    · simp only [bind_apply, pure_apply, paintRun_of_hidden hhidden]
      exact .of_write rfl (List.forall_mem_nil _)

theorem openSpan_unmarked (hhidden : document.frame.hidden = true) :
    document.Unmarked (document.openSpan setting attributes ledger).1.1 := by
  rw [openSpan]
  split
  · exact openText_unmarked setting document attributes ledger
  · simp only [bind_apply, pure_apply]
    exact (flushText_unmarked setting ledger hhidden false).trans (.of_output (enter_output ..))

theorem drawShape_of_hidden (hhidden : document.frame.hidden = true) (kind : ShapeKind) :
    document.drawShape setting kind attributes ledger = (document, ledger) := by
  rw [drawShape]
  cases (document.shapeContext setting _).path? attributes kind with
  | none => rfl
  | some path => simp only [hhidden, Bool.or_true, if_true, pure_apply]

theorem openImage_of_hidden (hhidden : document.frame.hidden = true) :
    document.openImage setting attributes ledger = ((document, .inert), ledger) := by
  simp only [openImage, hhidden, Bool.or_true, if_true, pure_apply]

/-- A use on its own draws nothing. -/
theorem isEmbedding_openUse : (document.openUse setting attributes ledger).1.isEmbedding = false := by
  have hquiet := (openUse_withholds setting document attributes ledger).1
  generalize (document.openUse setting attributes ledger).1 = opening at hquiet ⊢
  cases opening with
  | embedding inner markup => cases hquiet
  | _ => rfl

theorem openDrawn_conceals (hhidden : document.frame.hidden = true) (kind : ElementKind) :
    let result := (document.openDrawn setting kind attributes ledger).1
    document.Conceals result.1 ∧ result.2.isEmbedding = false := by
  have hstill {hidden other : Bool} (h : hidden = (document.frame.hidden || other)) : hidden = true := by
    rw [h, hhidden, Bool.true_or]
  cases kind with
  | svg =>
    exact ⟨⟨openNestedSvg_unmarked setting document attributes ledger,
      hstill (openNestedSvg_hidden setting document attributes ledger)⟩, rfl⟩
  | group =>
    exact ⟨⟨openGroup_unmarked setting document attributes ledger,
      hstill (openGroup_hidden setting document attributes ledger)⟩, rfl⟩
  | text =>
    exact ⟨⟨openText_unmarked setting document attributes ledger,
      hstill (openText_hidden setting document attributes ledger)⟩, rfl⟩
  | span =>
    exact ⟨⟨openSpan_unmarked setting attributes ledger hhidden,
      hstill (openSpan_hidden setting document attributes ledger)⟩, rfl⟩
  | use => exact ⟨.of_same rfl rfl hhidden, isEmbedding_openUse setting attributes ledger⟩
  | shape shape =>
    simp only [openDrawn, bind_apply, pure_apply, drawShape_of_hidden setting attributes ledger hhidden]
    exact ⟨.of_same rfl rfl hhidden, rfl⟩
  | image =>
    simp only [openDrawn, openImage_of_hidden setting attributes ledger hhidden]
    exact ⟨.of_same rfl rfl hhidden, rfl⟩
  | _ => exact ⟨.of_same rfl rfl hhidden, rfl⟩

/-- Where nothing is to be seen, no start tag paints anything or has a document drawn, and nothing is to be seen
    in the element either. -/
theorem openElement_conceals (hhidden : document.frame.hidden = true) (kind : ElementKind) :
    let result := (document.openElement setting kind attributes ledger).1
    document.Conceals result.1 ∧ result.2.isEmbedding = false := by
  cases hdrawing : document.isDrawing with
  | false =>
    obtain ⟨hwithheld, hquiet, -⟩ := openElement_withholds setting hdrawing kind attributes ledger
    dsimp only at hwithheld hquiet ⊢
    generalize (document.openElement setting kind attributes ledger).1 = result at hwithheld hquiet ⊢
    obtain ⟨result, opening⟩ := result
    refine ⟨.of_same hwithheld.output hwithheld.frame hhidden, ?_⟩
    cases opening with
    | embedding inner markup => cases hquiet
    | _ => rfl
  | true =>
    by_cases hkind : kind.isDrawn = true
    · rw [openElement_of_isDrawn hdrawing hkind]
      exact openDrawn_conceals setting attributes ledger hhidden kind
    · rw [isDrawing, Bool.and_eq_true, Option.isNone_iff_eq_none] at hdrawing
      simp only [openElement, hdrawing.2]
      cases kind with
      | stop =>
        obtain ⟨gradients, hadded⟩ := document.addStop_eq setting attributes
        rw [hadded]
        exact ⟨.of_same rfl rfl hhidden, rfl⟩
      | gradient _ | clipPath | defs | symbol => exact ⟨.of_same rfl rfl hhidden, rfl⟩
      | _ => exact absurd rfl hkind

theorem beginTag_conceals (hhidden : document.frame.hidden = true) (name : String) :
    let result := (document.beginTag setting name attributes ledger).1
    document.Conceals result.1 ∧ result.2.opening.isEmbedding = false := by
  have hrecords := (recordStart_records document name attributes (.ofName name)).withholds
  have hstill : (document.recordStart name attributes (.ofName name)).1.frame.hidden = true := by
    rw [hrecords.frame]
    exact hhidden
  obtain ⟨hopened, hembedding⟩ := openElement_conceals setting attributes ledger hstill (.ofName name)
  exact ⟨⟨(Unmarked.of_output hrecords.output).trans hopened.unmarked, hopened.hidden⟩, hembedding⟩

theorem close_unmarked (hhidden : document.frame.hidden = true) (closing : Closing α) :
    document.Unmarked (document.close setting closing ledger).1 := by
  have hrestore (closed : Document α) : closed.Unmarked (closed.write [.restore]) :=
    .of_write rfl (List.forall_mem_singleton.2 rfl)
  cases closing with
  | scope previous => exact hrestore document
  | nestedSvg previous => exact hrestore document
  | text previous outer => exact (flushText_unmarked setting ledger hhidden true).trans (hrestore _)
  | span previous => exact (flushText_unmarked setting ledger hhidden false).trans (.of_output rfl)
  | nothing | gradient | clipPath | clipElement _ | definitions => exact .of_output rfl

/-- Nor does an end tag, although characters are pending that may have been read before. -/
theorem endElement_unmarked (hhidden : document.frame.hidden = true) (element : OpenElement α) (name : String) :
    document.Unmarked (document.endElement setting element name ledger).1 := by
  let recorded := if element.recorded then document.recordEnd name else document
  have hrecorded : recorded.output = document.output ∧ recorded.frame = document.frame := by
    dsimp only [recorded]
    split <;> exact ⟨rfl, rfl⟩
  have hstill : recorded.frame.hidden = true := by
    rw [hrecorded.2]
    exact hhidden
  have hclosed := (Unmarked.of_output hrecorded.1).trans (close_unmarked setting ledger hstill element.closing)
  have hended : (document.endElement setting element name ledger).1 =
      if element.defines then (recorded.close setting element.closing ledger).1.finishRecording
      else (recorded.close setting element.closing ledger).1 := rfl
  rw [hended]
  split
  · exact hclosed.trans (.of_output (finishRecording_output _))
  · exact hclosed

end Handlers

section Hides

variable {setting : Setting α} {document : Document α} {attributes : Attributes}

/-- The content of an element is hidden as soon as the element is open. -/
theorem openDrawn_hides {kind : ElementKind} (hkind : kind.isContainer = true)
    (hhides : document.HidesContent setting kind attributes) (ledger : Ledger α) :
    (document.openDrawn setting kind attributes ledger).1.1.frame.hidden = true := by
  have hnone {hidden : Bool} (hdisplay : kind ≠ .svg)
      (h : hidden = (document.frame.hidden ||
        (document.frame.style.resolve attributes setting.options.dpi).text .display == "none")) :
      hidden = true := by
    obtain hnone | ⟨hsvg, -⟩ := hhides
    · rw [h, hnone, beq_self_eq_true, Bool.or_true]
    · exact absurd hsvg hdisplay
  cases kind with
  | svg =>
    refine (openNestedSvg_hidden setting document attributes ledger).trans ?_
    obtain hnone | ⟨-, -, hwidth | hheight⟩ := hhides
    · rw [hnone, beq_self_eq_true, Bool.true_or, Bool.or_true]
    · rw [decide_eq_false hwidth, Bool.false_and, Bool.not_false, Bool.or_true, Bool.or_true]
    · rw [decide_eq_false hheight, Bool.and_false, Bool.not_false, Bool.or_true, Bool.or_true]
  | group => exact hnone ElementKind.noConfusion (openGroup_hidden setting document attributes ledger)
  | text => exact hnone ElementKind.noConfusion (openText_hidden setting document attributes ledger)
  | span => exact hnone ElementKind.noConfusion (openSpan_hidden setting document attributes ledger)
  | _ => cases hkind

theorem beginTag_hides {name : String} (hdrawing : document.isDrawing = true)
    (hkind : (ElementKind.ofName name).isContainer = true)
    (hhides : document.HidesContent setting (.ofName name) attributes) (ledger : Ledger α) :
    (document.beginTag setting name attributes ledger).1.1.frame.hidden = true := by
  have hrecords := recordStart_records document name attributes (.ofName name)
  have hstill : (document.recordStart name attributes (.ofName name)).1.isDrawing = true := by
    obtain ⟨hdefinitions, hclip⟩ := hrecords.mode_eq
    rw [isDrawing, hdefinitions, hclip]
    exact hdrawing
  have hopened := openDrawn_hides hkind
    (hhides.congr (congrArg Scope.frame hrecords.scope_eq) (congrArg Standing.rootSeen hrecords.standing_eq)) ledger
  rw [← openElement_of_isDrawn hstill (ElementKind.isDrawn_of_isContainer hkind)] at hopened
  exact hopened

/-- So is that of a root which is not displayed. -/
theorem openRoot_hidden {opened : Document α} {closing : Closing α} {ledger ledger' : Ledger α}
    (h : (document.openRoot setting attributes).run ledger = (.ok (opened, closing), ledger')) :
    opened.frame.hidden = (document.frame.hidden ||
      (document.frame.style.resolve attributes setting.options.dpi).text .display == "none") := by
  cases hsize : rootSize setting document.frame attributes with
  | error failure =>
    simp only [openRoot, hsize] at h
    cases h
  | ok size =>
    rw [openRoot_run hsize] at h
    obtain ⟨hresult, -⟩ := Prod.mk.inj h
    obtain ⟨rfl, -⟩ := Prod.mk.inj (Except.ok.inj hresult)
    rfl

end Hides

end Document

end SvgPage
