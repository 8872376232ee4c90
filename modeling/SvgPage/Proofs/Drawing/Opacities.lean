import SvgPage.Proofs.Color.Read
import SvgPage.Proofs.Drawing.Draws
import SvgPage.Proofs.Drawing.Sheet
import SvgPage.Proofs.Gradient.Chain
import SvgPage.Proofs.Table
import SvgPage.Style.Basic

namespace SvgPage

open Scalar (IsAlpha)

section Styles

variable {α : Type} [Scalar α]

namespace NumberProperty

/-- Whether a property tells how far elements cover what lies under them. -/
def isOpacity : NumberProperty → Bool
  | fillOpacity | opacity | stopOpacity | strokeOpacity => true
  | _ => false

theorem mem_all (property : NumberProperty) : property ∈ all := by
  cases property <;> decide

end NumberProperty

/-- The opacities that an element states lie between zero and one. -/
def Table.StatesAlphas (α : Type) [Scalar α] (attributes : Attributes) : Prop :=
  ∀ property ∈ NumberProperty.all, property.isOpacity = true →
    ∀ value ∈ ((StyleSource.ofAttributes attributes).declared? property.name).bind (readNumber? (α := α)),
      IsAlpha value

instance (attributes : Attributes) : Decidable (attributes.StatesAlphas α) :=
  inferInstanceAs (Decidable (∀ property ∈ NumberProperty.all, property.isOpacity = true → ∀ value ∈ _, _))

/-- The opacities of a style lie between zero and one. -/
def Style.HasAlphas (style : Style α) : Prop :=
  ∀ property : NumberProperty, property.isOpacity = true → IsAlpha (style.number property)

/-- The opacities of the stops of a gradient lie between zero and one. -/
def GradientStop.HasAlphas (stops : List (GradientStop α)) : Prop := ∀ stop ∈ stops, IsAlpha stop.opacity

variable [Scalar.Bounded α]

theorem NumberProperty.isAlpha_initial {property : NumberProperty} (h : property.isOpacity = true) :
    IsAlpha (property.initial : α) := by
  cases property with
  | fillOpacity | opacity | stopOpacity | strokeOpacity => exact Scalar.Bounded.isAlpha_one
  | _ => cases h

namespace Style.HasAlphas

theorem initial (fontSize : α) : (Style.initial fontSize).HasAlphas :=
  fun _ hopacity => NumberProperty.isAlpha_initial hopacity

/-- The style of an element has the opacities that the element states, or those around it, or the initial
    ones. -/
theorem resolve {parent : Style α} (hparent : parent.HasAlphas) {attributes : Attributes}
    (hattributes : attributes.StatesAlphas α) (dpi : α) : (parent.resolve attributes dpi).HasAlphas := by
  intro property hopacity
  have hstated := hattributes property (NumberProperty.mem_all property) hopacity
  simp only [Style.resolve]
  generalize ((StyleSource.ofAttributes attributes).declared? property.name).bind (readNumber? (α := α)) =
    declared at hstated ⊢
  cases declared with
  | some value => exact hstated value rfl
  | none =>
    rw [Option.getD_none]
    split
    · exact hparent property hopacity
    · exact NumberProperty.isAlpha_initial hopacity

omit [Scalar.Bounded α] in
theorem setText {style : Style α} (h : style.HasAlphas) (property : TextProperty) (value : String) :
    (style.setText property value).HasAlphas := h

end Style.HasAlphas

namespace Gradient

omit [Scalar.Bounded α] in
theorem HasAlphas.resolve {gradients : Table (Gradient α)}
    (hgradients : ∀ id gradient, gradients.get? id = some gradient → GradientStop.HasAlphas gradient.stops)
    {id : String} {target : GradientTarget α} {resolved : ResolvedGradient α}
    (h : resolve? gradients id target = some resolved) : GradientStop.HasAlphas resolved.stops := by
  obtain ⟨found, gradient, hget, hstops⟩ := exists_of_resolve? h
  exact fun stop hstop => hgradients found gradient hget stop (hstops stop hstop)

end Gradient

end Styles

variable {α β γ : Type} [Scalar α]

/-- The alphas of a graphics state lie between zero and one. -/
def Resource.HasAlphas : Resource α → Prop
  | graphicsState fillAlpha strokeAlpha _ => IsAlpha fillAlpha ∧ IsAlpha strokeAlpha
  | _ => True

/-- The alphas of all graphics states that have been registered lie between zero and one. -/
def Ledger.HasAlphas (ledger : Ledger α) : Prop := ∀ resource ∈ ledger.resources, resource.HasAlphas

structure Frame.HasAlphas (frame : Frame α) : Prop where
  opacity : IsAlpha frame.opacity
  style : frame.style.HasAlphas

/-- The frame that holds again after an element has the opacities of one. -/
def Closing.HasAlphas : Closing α → Prop
  | scope previous | nestedSvg previous | text previous _ | span previous => previous.HasAlphas
  | _ => True

/-- All opacities that a document hands down or keeps lie between zero and one. -/
structure Document.HasAlphas (document : Document α) : Prop where
  frame : document.frame.HasAlphas
  openElements : ∀ element ∈ document.openElements, element.closing.HasAlphas
  gradients : ∀ id gradient, document.gradients.get? id = some gradient → GradientStop.HasAlphas gradient.stops

/-- How far a paint covers what lies under it, or its stops, where it is a gradient, lies between zero and
    one. -/
def ResolvedPaint.HasAlphas : ResolvedPaint α → Prop
  | none => True
  | color resolved => IsAlpha resolved.alpha
  | gradient resolved => GradientStop.HasAlphas resolved.stops

/-- An action that registers no graphics states but those with alphas between zero and one, and whose results
    have a property. -/
structure Bounds (action : StateM (Ledger α) β) (property : β → Prop) : Prop where
  result : ∀ ledger, property (action ledger).1
  ledger : ∀ {ledger}, ledger.HasAlphas → (action ledger).2.HasAlphas

namespace Bounds

variable {action : StateM (Ledger α) β} {next : β → StateM (Ledger α) γ} {property : β → Prop}
  {property' : γ → Prop} {result : β}

theorem iff_registers : Bounds action property ↔ Registers Resource.HasAlphas action property :=
  ⟨fun h => ⟨h.result, h.ledger⟩, fun h => ⟨h.result, h.ledger⟩⟩

theorem pure (h : property result) : Bounds (pure result : StateM (Ledger α) β) property :=
  iff_registers.2 (.pure h)

theorem bind (haction : Bounds action property) (hnext : ∀ result, property result → Bounds (next result) property') :
    Bounds (action >>= next) property' :=
  iff_registers.2 ((iff_registers.1 haction).bind fun result h => iff_registers.1 (hnext result h))

theorem tells (htells : Tells action) : Bounds action fun _ => True := iff_registers.2 (.tells htells)

theorem register {resource : Resource α} (h : resource.HasAlphas) :
    Bounds (Ledger.register resource) fun _ => True := iff_registers.2 (.register h)

end Bounds

variable [Scalar.Bounded α] {setting : Setting α} {document : Document α} {frame : Frame α} {style : Style α}
  {attributes : Attributes}

namespace Bounds

omit [Scalar.Bounded α] in
theorem graphicsState {fillAlpha strokeAlpha : α} (hfill : IsAlpha fillAlpha) (hstroke : IsAlpha strokeAlpha) :
    Bounds (graphicsState frame style fillAlpha strokeAlpha) fun _ => True := by
  unfold SvgPage.graphicsState
  split
  · exact .pure trivial
  · refine (register ?_).bind fun _ _ => .pure trivial
    exact ⟨hfill, hstroke⟩

theorem ofColor (token : String) : Bounds (ResolvedPaint.ofColor (α := α) token) ResolvedPaint.HasAlphas := by
  unfold ResolvedPaint.ofColor
  split
  next resolved hresolved => exact .pure (ResolvedColor.inRange_of_read hresolved).alpha
  next => exact (tells (.notify _)).bind fun _ _ => .pure trivial

theorem readPaint (hdocument : document.HasAlphas) (value : String) (box : Box α) :
    Bounds (ResolvedPaint.read setting document value style box) ResolvedPaint.HasAlphas := by
  unfold ResolvedPaint.read
  split
  next => exact .pure trivial
  next token _ => exact ofColor token
  next id fallback _ =>
    dsimp only
    split
    next resolved hresolved => exact .pure (Gradient.HasAlphas.resolve hdocument.gradients hresolved)
    next =>
      split
      · exact ofColor _
      · exact (tells (.notify _)).bind fun _ _ => .pure trivial

omit [Scalar.Bounded α] in
theorem imageOperators (placement : Matrix α) (bytes : List UInt8) :
    Bounds (imageOperators placement bytes) fun _ => True := by
  refine (register ?_).bind fun _ _ => .pure trivial
  trivial

omit [Scalar.Bounded α] in
theorem shadingOperators (gradient : ResolvedGradient α) :
    Bounds (shadingOperators gradient) fun _ => True := by
  unfold SvgPage.shadingOperators
  split
  · exact .pure trivial
  · refine (register ?_).bind fun _ _ => .pure trivial
    trivial

omit [Scalar.Bounded α] in
theorem paintOperators (outline : List (Operator α)) (evenOdd : Bool) (fill stroke : ResolvedPaint α)
    (lineStyle : LineStyle α) : Bounds (paintOperators outline evenOdd fill stroke lineStyle) fun _ => True := by
  cases fill with
  | gradient gradient => exact (shadingOperators gradient).bind fun _ _ => .pure trivial
  | _ => exact .pure trivial

end Bounds

namespace ResolvedPaint.HasAlphas

variable {paint : ResolvedPaint α}

theorem isAlpha (h : paint.HasAlphas) : IsAlpha paint.alpha := by
  cases paint with
  | color resolved => exact h
  | _ => exact Scalar.Bounded.isAlpha_one

omit [Scalar.Bounded α] in
theorem forFill (h : paint.HasAlphas) (box : Box α) : (paint.forFill box).HasAlphas := by
  unfold ResolvedPaint.forFill
  split
  · split
    · trivial
    · exact h
  · exact h

omit [Scalar.Bounded α] in
theorem forStroke (h : paint.HasAlphas) (lineStyle : LineStyle α) : (paint.forStroke lineStyle).HasAlphas := by
  unfold ResolvedPaint.forStroke
  split
  · trivial
  · split
    next resolved =>
      split
      next first rest hstops => exact h first (hstops ▸ List.mem_cons_self)
      next => trivial
    next => exact h

end ResolvedPaint.HasAlphas

theorem Frame.HasAlphas.isAlpha_opacity (hframe : frame.HasAlphas) (hstyle : style.HasAlphas) :
    IsAlpha (frame.opacity * style.number .opacity) := Scalar.Bounded.isAlpha_mul hframe.opacity (hstyle .opacity rfl)

namespace Bounds

theorem paintPath (hdocument : document.HasAlphas) (hstyle : style.HasAlphas) (path : Path α) (transform : Matrix α) :
    Bounds (paintPath setting document path style transform) fun _ => True := by
  unfold SvgPage.paintPath
  refine (readPaint hdocument _ _).bind fun fill hfill => (readPaint hdocument _ _).bind fun stroke hstroke => ?_
  dsimp only
  split
  · exact .pure trivial
  · have hopacity := hdocument.frame.isAlpha_opacity hstyle
    have harea (box : Box α) := Scalar.Bounded.isAlpha_mul
      (Scalar.Bounded.isAlpha_mul hopacity (hstyle .fillOpacity rfl)) (hfill.forFill box).isAlpha
    have hline (lineStyle : LineStyle α) := Scalar.Bounded.isAlpha_mul
      (Scalar.Bounded.isAlpha_mul hopacity (hstyle .strokeOpacity rfl)) (hstroke.forStroke lineStyle).isAlpha
    exact (tells (.clipRegion ..)).bind fun _ _ => (graphicsState (harea _) (hline _)).bind fun _ _ =>
      (paintOperators ..).bind fun _ _ => .pure trivial

theorem showRun (hframe : frame.HasAlphas) {colorAlpha : α} (halpha : IsAlpha colorAlpha) (run : TextRun α)
    (color : DeviceColor α) : Bounds (showRun frame run color colorAlpha) fun _ => True := by
  have hopacity := hframe.isAlpha_opacity hframe.style
  have hrun := Scalar.Bounded.isAlpha_mul
    (Scalar.Bounded.isAlpha_mul hopacity (hframe.style .fillOpacity rfl)) halpha
  exact (graphicsState hrun hrun).bind fun _ _ => .pure trivial

theorem paintRun (hframe : frame.HasAlphas) (run : TextRun α) : Bounds (paintRun frame run) fun _ => True := by
  unfold SvgPage.paintRun
  dsimp only
  split
  · exact .pure trivial
  · split
    next => exact .pure trivial
    next => exact showRun hframe Scalar.Bounded.isAlpha_one run _
    next =>
      split
      next resolved hresolved => exact showRun hframe (ResolvedColor.inRange_of_read hresolved).alpha run _
      next => exact (tells (.notify _)).bind fun _ _ => .pure trivial

end Bounds

namespace Document.HasAlphas

omit [Scalar.Bounded α] in
/-- Only the frame, the open elements and the gradients matter. -/
theorem of_eq {result : Document α} (h : document.HasAlphas) (hframe : result.frame = document.frame)
    (helements : result.openElements = document.openElements) (hgradients : result.gradients = document.gradients) :
    result.HasAlphas :=
  ⟨hframe ▸ h.frame, helements ▸ h.openElements, hgradients ▸ h.gradients⟩

theorem initial (setting : Setting α) : (Document.initial setting).HasAlphas where
  frame := ⟨Scalar.Bounded.isAlpha_one, .initial _⟩
  openElements := List.forall_mem_nil _
  gradients _ _ hget := by cases hget

omit [Scalar.Bounded α] in
theorem write (h : document.HasAlphas) (operators : List (Operator α)) : (document.write operators).HasAlphas :=
  h.of_eq rfl rfl rfl

omit [Scalar.Bounded α] in
/-- An element may have a frame of its own. -/
theorem entered {result : Document α} (h : document.HasAlphas) (hopacity : IsAlpha result.frame.opacity)
    (hstyle : result.frame.style.HasAlphas) (helements : result.openElements = document.openElements)
    (hgradients : result.gradients = document.gradients) : result.HasAlphas :=
  ⟨⟨hopacity, hstyle⟩, helements ▸ h.openElements, hgradients ▸ h.gradients⟩

omit [Scalar.Bounded α] in
theorem push (h : document.HasAlphas) {element : OpenElement α} (helement : element.closing.HasAlphas) :
    (document.push element).HasAlphas :=
  ⟨h.frame, List.forall_mem_cons.2 ⟨helement, h.openElements⟩, h.gradients⟩

omit [Scalar.Bounded α] in
theorem addText (h : document.HasAlphas) (text : String) : (document.addText text).HasAlphas := by
  simp only [Document.addText]
  split <;> split <;> exact h.of_eq rfl rfl rfl

omit [Scalar.Bounded α] in
theorem recordStart (h : document.HasAlphas) (name : String) (attributes : Attributes) (kind : ElementKind) :
    (document.recordStart name attributes kind).1.HasAlphas := by
  simp only [Document.recordStart]
  split
  · exact h
  · split <;> exact h.of_eq rfl rfl rfl

omit [Scalar.Bounded α] in
theorem finishRecording (h : document.HasAlphas) : document.finishRecording.HasAlphas := by
  rw [Document.finishRecording]
  split
  · exact h
  · exact h.of_eq rfl rfl rfl

theorem resolve (h : document.HasAlphas) (hattributes : attributes.StatesAlphas α) (dpi : α) :
    (document.frame.style.resolve attributes dpi).HasAlphas := h.frame.style.resolve hattributes dpi

end Document.HasAlphas

namespace Bounds

/-- A document that an element has been opened in, and what its end tag has to undo. -/
structure Opened (opened : Document α × Closing α) : Prop where
  document : opened.1.HasAlphas
  closing : opened.2.HasAlphas

omit [Scalar.Bounded α] in
theorem pure_opened {closing : Closing α} (hdocument : document.HasAlphas) (hclosing : closing.HasAlphas) :
    Bounds (Pure.pure (document, closing) : StateM (Ledger α) _) Opened := .pure ⟨hdocument, hclosing⟩

theorem drawShape (hdocument : document.HasAlphas) (hattributes : attributes.StatesAlphas α) (kind : ShapeKind) :
    Bounds (document.drawShape setting kind attributes) Document.HasAlphas := by
  have hstyle := hdocument.resolve hattributes setting.options.dpi
  unfold Document.drawShape
  dsimp only
  split
  · exact .pure hdocument
  · split
    · exact .pure hdocument
    · exact (paintPath hdocument hstyle _ _).bind fun _ _ => .pure (hdocument.write _)

theorem drawPixels (hdocument : document.HasAlphas) (hstyle : style.HasAlphas) (transform : Matrix α) (box : Box α)
    (bytes : List UInt8) : Bounds (document.drawPixels setting style transform box bytes) Document.HasAlphas := by
  have hopacity := hdocument.frame.isAlpha_opacity hstyle
  exact (tells (.clipRegion ..)).bind fun _ _ => (graphicsState hopacity hopacity).bind fun _ _ =>
    (imageOperators ..).bind fun _ _ => .pure (hdocument.write _)

theorem openGroup (hdocument : document.HasAlphas) (hattributes : attributes.StatesAlphas α) :
    Bounds (document.openGroup setting attributes) Opened := by
  have hstyle := hdocument.resolve hattributes setting.options.dpi
  have hopacity := hdocument.frame.isAlpha_opacity hstyle
  exact (tells (.clipRegion ..)).bind fun _ _ => (graphicsState hopacity hopacity).bind fun _ _ =>
    pure_opened (hdocument.entered hopacity hstyle rfl rfl) hdocument.frame

theorem openNestedSvg (hdocument : document.HasAlphas) (hattributes : attributes.StatesAlphas α) :
    Bounds (document.openNestedSvg setting attributes) Opened := by
  have hstyle := hdocument.resolve hattributes setting.options.dpi
  have hhidden (hasArea : Bool) : Style.HasAlphas
      (if hasArea then document.frame.style.resolve attributes setting.options.dpi
        else (document.frame.style.resolve attributes setting.options.dpi).setText .display "none") := by
    split
    · exact hstyle
    · exact hstyle.setText _ _
  have hopacity (hasArea : Bool) := hdocument.frame.isAlpha_opacity (hhidden hasArea)
  exact (tells (.clipRegion ..)).bind fun _ _ => (graphicsState (hopacity _) (hopacity _)).bind fun _ _ =>
    (tells (.notify _)).bind fun _ _ =>
      pure_opened (hdocument.entered (hopacity _) (hhidden _) rfl rfl) hdocument.frame

theorem flushText (hdocument : document.HasAlphas) (atEnd : Bool) :
    Bounds (document.flushText setting atEnd) Document.HasAlphas := by
  unfold Document.flushText
  split
  · exact .pure hdocument
  · dsimp only
    split
    · exact .pure (hdocument.of_eq rfl rfl rfl)
    · refine (tells (.layOut _)).bind fun _ _ => (paintRun hdocument.frame _).bind fun _ _ => .pure ?_
      exact hdocument.of_eq rfl rfl rfl

theorem openText (hdocument : document.HasAlphas) (hattributes : attributes.StatesAlphas α) :
    Bounds (document.openText setting attributes) Opened := by
  have hstyle := hdocument.resolve hattributes setting.options.dpi
  exact (tells (.clipRegion ..)).bind fun _ _ =>
    pure_opened (hdocument.entered hdocument.frame.opacity hstyle rfl rfl) hdocument.frame

theorem openSpan (hdocument : document.HasAlphas) (hattributes : attributes.StatesAlphas α) :
    Bounds (document.openSpan setting attributes) Opened := by
  have hstyle := hdocument.resolve hattributes setting.options.dpi
  unfold Document.openSpan
  split
  · exact openText hdocument hattributes
  · exact (flushText hdocument false).bind fun flushed hflushed =>
      pure_opened (hflushed.entered hdocument.frame.opacity hstyle rfl rfl) hdocument.frame

/-- A document that a start tag has been handled in, and what it comes to. -/
structure Begun (begun : Document α × Opening α) : Prop where
  document : begun.1.HasAlphas
  closing : begun.2.closing.HasAlphas

omit [Scalar.Bounded α] in
theorem pure_begun {opening : Opening α} (hdocument : document.HasAlphas) (hopening : opening.closing.HasAlphas) :
    Bounds (Pure.pure (document, opening) : StateM (Ledger α) _) Begun := .pure ⟨hdocument, hopening⟩

omit [Scalar.Bounded α] in
theorem leaveOut (notice : Notice α) : Bounds (Opening.leaveOut notice) fun opening => opening.closing.HasAlphas :=
  (tells (.notify _)).bind fun _ _ => .pure trivial

omit [Scalar.Bounded α] in
theorem openUse : Bounds (document.openUse setting attributes) fun opening => opening.closing.HasAlphas := by
  unfold Document.openUse
  split
  · exact leaveOut _
  · exact leaveOut _
  · split
    · exact leaveOut _
    · split
      · exact leaveOut _
      · split <;> exact .pure trivial

omit [Scalar.Bounded α] in
theorem openEmbedded (href : String) (box : Box α) (matrix : Matrix α) :
    Bounds (Document.openEmbedded setting href box matrix) fun opening => opening.closing.HasAlphas := by
  unfold Document.openEmbedded
  split
  · exact leaveOut _
  · split
    · exact leaveOut _
    · exact .pure trivial

theorem openImage (hdocument : document.HasAlphas) (hattributes : attributes.StatesAlphas α) :
    Bounds (document.openImage setting attributes) Begun := by
  have hstyle := hdocument.resolve hattributes setting.options.dpi
  unfold Document.openImage
  dsimp only
  split
  · exact pure_begun hdocument trivial
  · split
    · exact (openEmbedded ..).bind fun _ hopening => pure_begun hdocument hopening
    · split
      · exact (leaveOut _).bind fun _ hopening => pure_begun hdocument hopening
      · exact (drawPixels hdocument hstyle ..).bind fun _ hdrawn => pure_begun hdrawn trivial

omit [Scalar.Bounded α] in
theorem opened {handler : StateM (Ledger α) (Document α × Closing α)} (h : Bounds handler Opened) :
    Bounds (Document.opened handler) Begun := h.bind fun _ hopened => .pure ⟨hopened.document, hopened.closing⟩

theorem openDrawn (hdocument : document.HasAlphas) (hattributes : attributes.StatesAlphas α) (kind : ElementKind) :
    Bounds (document.openDrawn setting kind attributes) Begun := by
  unfold Document.openDrawn
  split
  · exact (openNestedSvg hdocument hattributes).opened
  · exact (openGroup hdocument hattributes).opened
  · exact (openText hdocument hattributes).opened
  · exact (openSpan hdocument hattributes).opened
  · exact openUse.bind fun _ hopening => pure_begun hdocument hopening
  · exact (drawShape hdocument hattributes _).bind fun _ hdrawn => pure_begun hdrawn trivial
  · exact openImage hdocument hattributes
  · exact pure_begun hdocument trivial

end Bounds

namespace Document.HasAlphas

omit [Scalar.Bounded α] in
theorem openClipElement (h : document.HasAlphas) (clip : ClipCapture α) (kind : ElementKind) :
    Bounds.Opened (document.openClipElement setting clip kind attributes) := by
  refine ⟨?_, trivial⟩
  simp only [Document.openClipElement]
  split
  · split <;> exact h.of_eq rfl rfl rfl
  · exact h.of_eq rfl rfl rfl

omit [Scalar.Bounded α] in
/-- A gradient begins without stops. -/
theorem openGradientElement (h : document.HasAlphas) (kind : GradientKind) :
    (document.openGradientElement kind attributes).HasAlphas := by
  have hset (id : String) : ∀ other gradient,
      (document.gradients.set id (.ofAttributes id kind attributes)).get? other = some gradient →
        GradientStop.HasAlphas gradient.stops := by
    intro other gradient hget
    rw [Table.get?_set] at hget
    split at hget
    · cases hget
      exact List.forall_mem_nil _
    · exact h.gradients other gradient hget
  exact ⟨h.frame, h.openElements, hset _⟩

/-- The stop that is added has the opacity of its style and of its color. -/
theorem addStop (h : document.HasAlphas) (hattributes : attributes.StatesAlphas α) :
    (document.addStop setting attributes).HasAlphas := by
  have hstyle := h.resolve hattributes setting.options.dpi
  have hcolor (resolved : Option (ResolvedColor α)) (hresolved : ∀ color, resolved = some color → IsAlpha color.alpha) :
      IsAlpha ((resolved.map ResolvedColor.alpha).getD 1) := by
    cases resolved with
    | some color => exact hresolved color rfl
    | none => exact Scalar.Bounded.isAlpha_one
  unfold Document.addStop
  split
  next => exact h
  next id hopen =>
    refine ⟨h.frame, h.openElements, fun other gradient hget => ?_⟩
    rw [Table.get?_modify] at hget
    split at hget
    · obtain ⟨before, hbefore, rfl⟩ := Option.map_eq_some_iff.1 hget
      refine List.forall_mem_append.2 ⟨h.gradients other before hbefore, List.forall_mem_singleton.2 ?_⟩
      refine Scalar.Bounded.isAlpha_mul (hstyle .stopOpacity rfl) (hcolor _ fun color hresolved => ?_)
      split at hresolved
      · exact (ResolvedColor.inRange_of_read hresolved).alpha
      · cases hresolved
    · exact h.gradients other gradient hget

end Document.HasAlphas

namespace Bounds

theorem openElement (hdocument : document.HasAlphas) (hattributes : attributes.StatesAlphas α) (kind : ElementKind) :
    Bounds (document.openElement setting kind attributes) Begun := by
  unfold Document.openElement
  split
  · exact pure_begun hdocument trivial
  · exact pure_begun hdocument trivial
  · exact pure_begun hdocument trivial
  · exact openUse.bind fun _ hopening => pure_begun hdocument hopening
  · exact (Bounds.pure (hdocument.openClipElement ..)).opened
  · exact pure_begun (hdocument.openGradientElement _) trivial
  · exact pure_begun (hdocument.addStop hattributes) trivial
  · exact pure_begun (hdocument.of_eq rfl rfl rfl) trivial
  · exact pure_begun (hdocument.of_eq rfl rfl rfl) trivial
  · exact pure_begun (hdocument.of_eq rfl rfl rfl) trivial
  · split
    · exact pure_begun hdocument trivial
    · exact openDrawn hdocument hattributes _

variable (setting) in
theorem beginTag (hdocument : document.HasAlphas) (hattributes : attributes.StatesAlphas α) (name : String) :
    Bounds (document.beginTag setting name attributes) fun begun =>
      begun.1.HasAlphas ∧ begun.2.opening.closing.HasAlphas :=
  (openElement (hdocument.recordStart name attributes _) hattributes _).bind fun _ hbegun =>
    .pure ⟨hbegun.document, hbegun.closing⟩

theorem close (hdocument : document.HasAlphas) {closing : Closing α} (hclosing : closing.HasAlphas) :
    Bounds (document.close setting closing) Document.HasAlphas := by
  cases closing with
  | nothing => exact .pure hdocument
  | scope previous => exact .pure ⟨hclosing, hdocument.openElements, hdocument.gradients⟩
  | nestedSvg previous => exact .pure ⟨hclosing, hdocument.openElements, hdocument.gradients⟩
  | text previous outer =>
    exact (flushText hdocument true).bind fun _ hflushed => .pure ⟨hclosing, hflushed.openElements, hflushed.gradients⟩
  | span previous =>
    exact (flushText hdocument false).bind fun _ hflushed =>
      .pure ⟨hclosing, hflushed.openElements, hflushed.gradients⟩
  | gradient | clipPath | clipElement matrix | definitions => exact .pure (hdocument.of_eq rfl rfl rfl)

variable (setting) in
theorem endElement (hdocument : document.HasAlphas) {element : OpenElement α} (helement : element.closing.HasAlphas)
    (name : String) : Bounds (document.endElement setting element name) Document.HasAlphas := by
  have hrecorded : Document.HasAlphas (if element.recorded then document.recordEnd name else document) := by
    split
    · exact hdocument.of_eq rfl rfl rfl
    · exact hdocument
  refine (close hrecorded helement).bind fun closed hclosed => .pure ?_
  split
  · exact hclosed.finishRecording
  · exact hclosed

end Bounds

variable (setting) in
/-- A root that is opened leaves a document that has the opacity of the root. -/
theorem Ledger.HasAlphas.openRoot {ledger : Ledger α} (hledger : ledger.HasAlphas) (hdocument : document.HasAlphas)
    (hattributes : attributes.StatesAlphas α) :
    ((document.openRoot setting attributes).run ledger).2.HasAlphas ∧
      ∀ opened, ((document.openRoot setting attributes).run ledger).1 = .ok opened → Bounds.Opened opened := by
  have hstyle := hdocument.resolve hattributes setting.options.dpi
  have hopacity := hstyle .opacity rfl
  cases hsize : rootSize setting document.frame attributes with
  | error failure =>
    have hfailed : (document.openRoot setting attributes).run ledger = (.error failure, ledger) := by
      simp only [Document.openRoot, hsize]
      rfl
    rw [hfailed]
    refine ⟨hledger, fun opened hopened => ?_⟩
    cases hopened
  | ok size =>
    have hnotified := (Bounds.tells (.notify (.drawing (size.width, size.height) setting.depth))).ledger hledger
    rw [Document.openRoot_run hsize]
    refine ⟨(Bounds.graphicsState hopacity hopacity).ledger hnotified, fun opened hopened => ?_⟩
    obtain rfl := Except.ok.inj hopened
    refine ⟨?_, hdocument.frame⟩
    exact hdocument.entered hopacity hstyle rfl rfl

end SvgPage
