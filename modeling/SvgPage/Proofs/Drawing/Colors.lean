import SvgPage.Proofs.Content.Shading
import SvgPage.Proofs.Drawing.Draws
import SvgPage.Proofs.Drawing.Sheet
import SvgPage.Proofs.Gradient.Chain
import SvgPage.Proofs.Table

namespace SvgPage

variable {α : Type} [Scalar α]

/-- The color that an operator sets, if it sets one, has components between zero and one. -/
def Operator.InRange : Operator α → Prop
  | fillColor color | strokeColor color => color.InRange
  | _ => True

/-- The colors of a shading are in its space. -/
def Resource.InRange : Resource α → Prop
  | shading content => content.Fits
  | _ => True

/-- All colors that operators set are in range. -/
def Operator.AllInRange (operators : List (Operator α)) : Prop := ∀ operator ∈ operators, operator.InRange

/-- All colors that have been written for a document, and those of the gradients in it, are in range. -/
structure Document.InRange (document : Document α) : Prop where
  output : Operator.AllInRange document.output.toList
  gradients : ∀ id gradient, document.gradients.get? id = some gradient → GradientStop.InRange gradient.stops

/-- The color of a paint, or those of its stops, where it is a gradient, are in range. -/
def ResolvedPaint.InRange : ResolvedPaint α → Prop
  | none => True
  | color resolved => resolved.color.InRange
  | gradient resolved => GradientStop.InRange resolved.stops

namespace Operator.AllInRange

variable {first second : List (Operator α)}

theorem nil : AllInRange ([] : List (Operator α)) := List.forall_mem_nil _

theorem singleton {operator : Operator α} (h : operator.InRange) : AllInRange [operator] :=
  List.forall_mem_singleton.2 h

theorem save : AllInRange [(.save : Operator α)] := .singleton trivial

theorem restore : AllInRange [(.restore : Operator α)] := .singleton trivial

theorem append (hfirst : AllInRange first) (hsecond : AllInRange second) : AllInRange (first ++ second) :=
  List.forall_mem_append.2 ⟨hfirst, hsecond⟩

/-- Operators that build paths and clip to them set no colors. -/
theorem of_isLimiting (h : ∀ operator ∈ first, operator.isLimiting = true) : AllInRange first := by
  intro operator hmem
  have hlimiting := h operator hmem
  cases operator with
  | fillColor | strokeColor => cases hlimiting
  | _ => trivial

theorem outline (path : Path α) (pageHeight : α) (matrix : Matrix α) :
    AllInRange (path.operators pageHeight matrix) :=
  .of_isLimiting fun operator hmem => Operator.isLimiting_of_isConstruction
    (List.all_eq_true.1 (path.operators_isConstruction pageHeight matrix) operator hmem)

theorem transform (matrix : Matrix α) (pageHeight : α) : AllInRange (matrix.operators pageHeight) := by
  rw [Matrix.operators]
  split
  · exact .nil
  · exact .singleton trivial

theorem run (run : TextRun α) : AllInRange run.operators := by
  simp [AllInRange, TextRun.operators, Operator.InRange]

end Operator.AllInRange

namespace Document.InRange

variable {document result : Document α}

/-- Only the output and the gradients matter. -/
theorem of_eq (h : document.InRange) (houtput : result.output = document.output)
    (hgradients : result.gradients = document.gradients) : result.InRange :=
  ⟨houtput ▸ h.output, hgradients ▸ h.gradients⟩

theorem initial (setting : Setting α) : (Document.initial setting).InRange where
  output := .nil
  gradients _ _ hget := by cases hget

theorem write (h : document.InRange) {operators : List (Operator α)} (hoperators : Operator.AllInRange operators) :
    (document.write operators).InRange where
  output := by
    rw [Document.write_output]
    exact h.output.append hoperators
  gradients := h.gradients

theorem addText (h : document.InRange) (text : String) : (document.addText text).InRange := by
  simp only [Document.addText]
  split <;> split <;> exact h.of_eq rfl rfl

theorem recordStart (h : document.InRange) (name : String) (attributes : Attributes) (kind : ElementKind) :
    (document.recordStart name attributes kind).1.InRange := by
  have hrecords := recordStart_records document name attributes kind
  exact h.of_eq hrecords.output_eq hrecords.gradients_eq

theorem finishRecording (h : document.InRange) : document.finishRecording.InRange := by
  rw [Document.finishRecording]
  split
  · exact h
  · exact h.of_eq rfl rfl

end Document.InRange

/-- An action that registers no shadings but those whose colors are in range, and whose results have a property. -/
abbrev Colors {β : Type} (action : StateM (Ledger α) β) (property : β → Prop) : Prop :=
  Registers Resource.InRange action property

variable {setting : Setting α} {document : Document α} {frame : Frame α} {style : Style α} {attributes : Attributes}

namespace Colors

theorem clipRegion (setting : Setting α) (document : Document α) (style : Style α) (box : Option (Box α)) :
    Colors (clipRegion setting document style box) Operator.AllInRange :=
  .of_tells (.clipRegion ..) fun ledger => .of_isLimiting (isLimiting_clipRegion setting document style box ledger)

theorem graphicsState (frame : Frame α) (style : Style α) (fillAlpha strokeAlpha : α) :
    Colors (graphicsState frame style fillAlpha strokeAlpha) Operator.AllInRange := by
  unfold SvgPage.graphicsState
  split
  · exact .pure .nil
  · exact (Registers.register trivial).bind fun _ _ => .pure (.singleton trivial)

theorem imageOperators (placement : Matrix α) (bytes : List UInt8) :
    Colors (imageOperators placement bytes) Operator.AllInRange := by
  refine (Registers.register trivial).bind fun _ _ => .pure ?_
  simp [Operator.AllInRange, Operator.InRange]

/-- A graphics state that is saved for the content of an element, with its map and its clip region. -/
theorem prologue (transform : Matrix α) {clip state : List (Operator α)} (hclip : Operator.AllInRange clip)
    (hstate : Operator.AllInRange state) :
    Operator.AllInRange ([.save] ++ transform.operators setting.pageHeight ++ clip ++ state) :=
  ((Operator.AllInRange.save.append (.transform transform setting.pageHeight)).append hclip).append hstate

section Painting

variable [Scalar.Bounded α]

theorem ofColor (token : String) : Colors (ResolvedPaint.ofColor (α := α) token) ResolvedPaint.InRange := by
  unfold ResolvedPaint.ofColor
  split
  next resolved hresolved => exact .pure (ResolvedColor.inRange_of_read hresolved).color
  next => exact (Registers.tells (.notify _)).bind fun _ _ => .pure trivial

theorem readPaint (hdocument : document.InRange) (value : String) (box : Box α) :
    Colors (ResolvedPaint.read setting document value style box) ResolvedPaint.InRange := by
  unfold ResolvedPaint.read
  split
  next => exact .pure trivial
  next token _ => exact ofColor token
  next id fallback _ =>
    dsimp only
    split
    next resolved hresolved =>
      obtain ⟨found, gradient, hget, hstops⟩ := Gradient.exists_of_resolve? hresolved
      exact .pure fun stop hstop => hdocument.gradients found gradient hget stop (hstops stop hstop)
    next =>
      split
      · exact ofColor _
      · exact (Registers.tells (.notify _)).bind fun _ _ => .pure trivial

omit [Scalar.Bounded α] in
theorem forFill {paint : ResolvedPaint α} (h : paint.InRange) (box : Box α) : (paint.forFill box).InRange := by
  unfold ResolvedPaint.forFill
  split
  · split
    · trivial
    · exact h
  · exact h

omit [Scalar.Bounded α] in
theorem forStroke {paint : ResolvedPaint α} (h : paint.InRange) (lineStyle : LineStyle α) :
    (paint.forStroke lineStyle).InRange := by
  unfold ResolvedPaint.forStroke
  split
  · trivial
  · split
    next resolved =>
      split
      next first rest hstops => exact h first (hstops ▸ List.mem_cons_self)
      next => trivial
    next => exact h

variable [Scalar.Complemented α]

theorem paintRun (frame : Frame α) (run : TextRun α) : Colors (paintRun frame run) Operator.AllInRange := by
  have hshown {color : DeviceColor α} (hcolor : color.InRange) (alpha : α) :
      Colors (showRun frame run color alpha) Operator.AllInRange := by
    have hpainted : Operator.AllInRange (.fillColor color :: run.operators) :=
      List.forall_mem_cons.2 ⟨hcolor, Operator.AllInRange.run run⟩
    refine (graphicsState ..).bind fun state hstate => .pure ?_
    split
    · exact hpainted
    · exact ((Operator.AllInRange.save.append hstate).append hpainted).append .restore
  have hblack : (.gray 0 : DeviceColor α).InRange := List.forall_mem_singleton.2 Scalar.Complemented.isAlpha_zero
  unfold SvgPage.paintRun
  dsimp only
  split
  · exact .pure .nil
  · split
    next => exact .pure .nil
    next => exact hshown hblack 1
    next =>
      split
      next resolved hresolved => exact hshown (ResolvedColor.inRange_of_read hresolved).color _
      next => exact (Registers.tells (.notify _)).bind fun _ _ => .pure .nil

theorem shadingOperators {gradient : ResolvedGradient α} (h : GradientStop.InRange gradient.stops) :
    Colors (shadingOperators gradient) Operator.AllInRange := by
  unfold SvgPage.shadingOperators
  split
  · exact .pure .nil
  next shading hshading =>
    refine (Registers.register (Shading.fits_ofGradient? h hshading)).bind fun _ _ => .pure ?_
    simp [Operator.AllInRange, Operator.InRange]

theorem paintOperators {outline : List (Operator α)} (houtline : Operator.AllInRange outline) (evenOdd : Bool)
    {fill stroke : ResolvedPaint α} (hfill : fill.InRange) (hstroke : stroke.InRange) (lineStyle : LineStyle α) :
    Colors (paintOperators outline evenOdd fill stroke lineStyle) Operator.AllInRange := by
  have hpaint (operator : PaintOperator) : Operator.AllInRange [(.paint operator : Operator α)] := .singleton trivial
  have harea {resolved : ResolvedColor α} (h : resolved.color.InRange) (operator : PaintOperator) :
      Operator.AllInRange ([.fillColor resolved.color] ++ outline ++ [.paint operator]) := by
    have hcolor : Operator.AllInRange [.fillColor resolved.color] := List.forall_mem_singleton.2 h
    exact (hcolor.append houtline).append (hpaint operator)
  have hpen {resolved : ResolvedColor α} (h : resolved.color.InRange) :
      Operator.AllInRange [.lineStyle lineStyle, .strokeColor resolved.color] :=
    List.forall_mem_cons.2 ⟨trivial, List.forall_mem_singleton.2 h⟩
  have hline := houtline.append (hpaint .stroke)
  unfold SvgPage.paintOperators
  cases fill with
  | none =>
    cases stroke with
    | color line => exact .pure ((Operator.AllInRange.nil.append (hpen hstroke)).append hline)
    | _ => exact .pure .nil
  | color area =>
    cases stroke with
    | color line => exact .pure ((Operator.AllInRange.nil.append (hpen hstroke)).append (harea hfill _))
    | _ => exact .pure (harea hfill _)
  | gradient gradient =>
    refine (shadingOperators hfill).bind fun shading hshading => ?_
    have hshaded := (((Operator.AllInRange.save.append houtline).append
      (hpaint (if evenOdd then .clipEvenOdd else .clip))).append hshading).append .restore
    cases stroke with
    | color line => exact .pure ((hshaded.append (hpen hstroke)).append hline)
    | _ => exact .pure ((hshaded.append .nil).append .nil)

theorem paintPath (hdocument : document.InRange) (path : Path α) (transform : Matrix α) :
    Colors (paintPath setting document path style transform) Operator.AllInRange := by
  unfold SvgPage.paintPath
  refine (readPaint hdocument _ _).bind fun fill hfill => (readPaint hdocument _ _).bind fun stroke hstroke => ?_
  dsimp only
  split
  · exact .pure .nil
  · refine (clipRegion ..).bind fun clip hclip => (graphicsState ..).bind fun state hstate => ?_
    refine (paintOperators (.outline path _ _) _ (forFill hfill _) (forStroke hstroke _) _).bind fun painted hpainted =>
      .pure ?_
    exact ((prologue transform hclip hstate).append hpainted).append .restore

theorem drawShape (hdocument : document.InRange) (kind : ShapeKind) :
    Colors (document.drawShape setting kind attributes) Document.InRange := by
  unfold Document.drawShape
  dsimp only
  split
  · exact .pure hdocument
  · split
    · exact .pure hdocument
    · exact (paintPath hdocument _ _).bind fun _ hpainted => .pure (hdocument.write hpainted)

theorem flushText (hdocument : document.InRange) (atEnd : Bool) :
    Colors (document.flushText setting atEnd) Document.InRange := by
  unfold Document.flushText
  split
  · exact .pure hdocument
  · dsimp only
    split
    · exact .pure (hdocument.of_eq rfl rfl)
    · refine (Registers.tells (.layOut _)).bind fun _ _ => (paintRun ..).bind fun _ hpainted => .pure ?_
      exact (hdocument.write hpainted).of_eq rfl rfl

end Painting

theorem drawPixels (hdocument : document.InRange) (transform : Matrix α) (box : Box α) (bytes : List UInt8) :
    Colors (document.drawPixels setting style transform box bytes) Document.InRange :=
  (clipRegion ..).bind fun _ hclip => (graphicsState ..).bind fun _ hstate => (imageOperators ..).bind fun _ himage =>
    .pure (hdocument.write (((prologue transform hclip hstate).append himage).append .restore))

/-- A document in which an element has been opened, with what its end tag has to undo. -/
abbrev Opened {β : Type} (opened : Document α × β) : Prop := opened.1.InRange

theorem openGroup (hdocument : document.InRange) : Colors (document.openGroup setting attributes) Opened :=
  (clipRegion ..).bind fun _ hclip => (graphicsState ..).bind fun _ hstate =>
    .pure ((hdocument.write (prologue _ hclip hstate)).of_eq rfl rfl)

theorem openNestedSvg (hdocument : document.InRange) : Colors (document.openNestedSvg setting attributes) Opened := by
  have hviewport (clips : Bool) (box : Box α) :
      Operator.AllInRange (if clips then box.clipOperators setting.pageHeight else []) := by
    cases clips with
    | true => exact .of_isLimiting (isLimiting_clipOperators box setting.pageHeight)
    | false => exact .nil
  refine (clipRegion ..).bind fun clip hclip => (graphicsState ..).bind fun state hstate =>
    (Registers.tells (.notify _)).bind fun _ _ => .pure ?_
  have hbefore (transform : Matrix α) := Operator.AllInRange.save.append (.transform transform setting.pageHeight)
  have hwritten (transform inner : Matrix α) (clips : Bool) (box : Box α) :=
    ((((hbefore transform).append (hviewport clips box)).append hclip).append hstate).append
      (.transform inner setting.pageHeight)
  exact (hdocument.write (hwritten _ _ _ _)).of_eq rfl rfl

theorem openText (hdocument : document.InRange) : Colors (document.openText setting attributes) Opened := by
  refine (clipRegion ..).bind fun clip hclip => .pure ?_
  have hwritten (transform : Matrix α) :=
    (Operator.AllInRange.save.append (.transform transform setting.pageHeight)).append hclip
  exact (hdocument.write (hwritten _)).of_eq rfl rfl

/-- An opening that leaves the document as it is. -/
theorem opening (hdocument : document.InRange) {action : StateM (Ledger α) (Opening α)} (htells : Tells action) :
    Colors (do return (document, ← action)) Opened :=
  (Registers.tells htells).bind fun _ _ => .pure hdocument

theorem openImage (hdocument : document.InRange) : Colors (document.openImage setting attributes) Opened := by
  unfold Document.openImage
  dsimp only
  split
  · exact .pure hdocument
  · split
    · exact opening hdocument (.openEmbedded ..)
    · split
      · exact opening hdocument (.leaveOut _)
      · exact (drawPixels hdocument ..).bind fun _ hdrawn => .pure hdrawn

theorem opened {handler : StateM (Ledger α) (Document α × Closing α)} (h : Colors handler Opened) :
    Colors (Document.opened handler) Opened := h.bind fun _ hopened => .pure hopened

theorem openClipElement (hdocument : document.InRange) (clip : ClipCapture α) (kind : ElementKind) :
    Opened (document.openClipElement setting clip kind attributes) := by
  simp only [Opened, Document.openClipElement]
  split
  · split <;> exact hdocument.of_eq rfl rfl
  · exact hdocument.of_eq rfl rfl

/-- A gradient begins without stops. -/
theorem openGradientElement (hdocument : document.InRange) (kind : GradientKind) :
    (document.openGradientElement kind attributes).InRange := by
  have hset (id : String) : ∀ other gradient,
      (document.gradients.set id (.ofAttributes id kind attributes)).get? other = some gradient →
        GradientStop.InRange gradient.stops := by
    intro other gradient hget
    rw [Table.get?_set] at hget
    split at hget
    · cases hget
      exact List.forall_mem_nil _
    · exact hdocument.gradients other gradient hget
  exact ⟨hdocument.output, hset _⟩

variable [Scalar.Bounded α] [Scalar.Complemented α]

theorem openSpan (hdocument : document.InRange) : Colors (document.openSpan setting attributes) Opened := by
  unfold Document.openSpan
  split
  · exact openText hdocument
  · exact (flushText hdocument false).bind fun _ hflushed => .pure (hflushed.of_eq rfl rfl)

/-- A stop without a color is black. -/
theorem addStop (hdocument : document.InRange) : (document.addStop setting attributes).InRange := by
  have hblack : (.gray 0 : DeviceColor α).InRange := List.forall_mem_singleton.2 Scalar.Complemented.isAlpha_zero
  have hcolor (resolved : Option (ResolvedColor α)) (hresolved : ∀ color, resolved = some color → color.InRange) :
      ((resolved.map ResolvedColor.color).getD (.gray 0)).InRange := by
    cases resolved with
    | some color => exact (hresolved color rfl).color
    | none => exact hblack
  unfold Document.addStop
  split
  next => exact hdocument
  next id hopen =>
    refine ⟨hdocument.output, fun other gradient hget => ?_⟩
    rw [Table.get?_modify] at hget
    split at hget
    · obtain ⟨before, hbefore, rfl⟩ := Option.map_eq_some_iff.1 hget
      refine List.forall_mem_append.2 ⟨hdocument.gradients other before hbefore, List.forall_mem_singleton.2 ?_⟩
      dsimp only
      refine hcolor _ fun color hresolved => ?_
      split at hresolved
      · exact ResolvedColor.inRange_of_read hresolved
      · cases hresolved
    · exact hdocument.gradients other gradient hget

theorem openDrawn (hdocument : document.InRange) (kind : ElementKind) :
    Colors (document.openDrawn setting kind attributes) Opened := by
  unfold Document.openDrawn
  split
  · exact opened (openNestedSvg hdocument)
  · exact opened (openGroup hdocument)
  · exact opened (openText hdocument)
  · exact opened (openSpan hdocument)
  · exact opening hdocument (.openUse ..)
  · exact (drawShape hdocument _).bind fun _ hdrawn => .pure hdrawn
  · exact openImage hdocument
  · exact .pure hdocument

theorem openElement (hdocument : document.InRange) (kind : ElementKind) :
    Colors (document.openElement setting kind attributes) Opened := by
  have hadded : (document.addStop setting attributes).InRange := addStop hdocument
  unfold Document.openElement
  split
  · exact .pure hdocument
  · exact .pure hdocument
  · exact .pure hdocument
  · exact opening hdocument (.openUse ..)
  · exact opened (.pure (openClipElement hdocument ..))
  · exact .pure (openGradientElement hdocument _)
  · exact .pure hadded
  · exact .pure (hdocument.of_eq rfl rfl)
  · exact .pure (hdocument.of_eq rfl rfl)
  · exact .pure (hdocument.of_eq rfl rfl)
  · split
    · exact .pure hdocument
    · exact openDrawn hdocument _

theorem beginTag (setting : Setting α) (hdocument : document.InRange) (name : String) (attributes : Attributes) :
    Colors (document.beginTag setting name attributes) Opened :=
  (openElement (hdocument.recordStart name attributes _) _).bind fun _ hopened => .pure hopened

theorem close (hdocument : document.InRange) (closing : Closing α) :
    Colors (document.close setting closing) Document.InRange := by
  have hrestored {inner : Document α} (h : inner.InRange) : (inner.write [.restore]).InRange := h.write .restore
  cases closing with
  | nothing => exact .pure hdocument
  | scope previous | nestedSvg previous => exact .pure ((hrestored hdocument).of_eq rfl rfl)
  | text previous outer =>
    exact (flushText hdocument true).bind fun _ hflushed => .pure ((hrestored hflushed).of_eq rfl rfl)
  | span previous => exact (flushText hdocument false).bind fun _ hflushed => .pure (hflushed.of_eq rfl rfl)
  | gradient | clipPath | clipElement matrix | definitions => exact .pure (hdocument.of_eq rfl rfl)

theorem endElement (setting : Setting α) (hdocument : document.InRange) (element : OpenElement α) (name : String) :
    Colors (document.endElement setting element name) Document.InRange := by
  have hrecorded : Document.InRange (if element.recorded then document.recordEnd name else document) := by
    split
    · exact hdocument.of_eq rfl rfl
    · exact hdocument
  refine (close hrecorded element.closing).bind fun closed hclosed => .pure ?_
  split
  · exact hclosed.finishRecording
  · exact hclosed

end Colors

/-- So does the start tag of a root, whether it fails or not. -/
theorem Ledger.All.openRoot {ledger : Ledger α} (hledger : ledger.All Resource.InRange) (setting : Setting α)
    (hdocument : document.InRange) (attributes : Attributes) :
    ((document.openRoot setting attributes).run ledger).2.All Resource.InRange ∧
      ∀ opened, ((document.openRoot setting attributes).run ledger).1 = .ok opened → Colors.Opened opened := by
  cases hsize : rootSize setting document.frame attributes with
  | error failure =>
    have hfailed : (document.openRoot setting attributes).run ledger = (.error failure, ledger) := by
      simp only [Document.openRoot, hsize]
      rfl
    rw [hfailed]
    exact ⟨hledger, fun opened hopened => by cases hopened⟩
  | ok size =>
    have hnotified := (Registers.tells (.notify (.drawing (size.width, size.height) setting.depth))).ledger hledger
    rw [Document.openRoot_run hsize]
    refine ⟨(Colors.graphicsState ..).ledger hnotified, fun opened hopened => ?_⟩
    obtain rfl := Except.ok.inj hopened
    have hbox : Operator.AllInRange [.rect (drawingBox setting size), .paint .clip] :=
      List.forall_mem_cons.2 ⟨trivial, List.forall_mem_singleton.2 trivial⟩
    have hmap (matrix : Matrix α) := Operator.AllInRange.transform matrix setting.pageHeight
    have hwritten (fit : Matrix α) {state : List (Operator α)} (hstate : Operator.AllInRange state) :=
      (((Operator.AllInRange.save.append (hmap setting.placement.matrix)).append hbox).append (hmap fit)).append hstate
    exact (hdocument.write (hwritten _ ((Colors.graphicsState ..).result _))).of_eq rfl rfl

end SvgPage
