import SvgPage.Proofs.Drawing.Figures
import SvgPage.Proofs.Drawing.Intends
import SvgPage.Proofs.Drawing.Opens

namespace SvgPage

variable {α β γ : Type}

/-- None of the operators shows text. -/
def AreMute (operators : List (Operator α)) : Prop := ∀ operator ∈ operators, ∀ text, operator ≠ .showText text

namespace AreMute

variable {first second : List (Operator α)} {operator : Operator α}

theorem nil : AreMute ([] : List (Operator α)) := List.forall_mem_nil _

theorem append (hfirst : AreMute first) (hsecond : AreMute second) : AreMute (first ++ second) :=
  List.forall_mem_append.2 ⟨hfirst, hsecond⟩

theorem singleton (h : ∀ text, operator ≠ .showText text) : AreMute [operator] := List.forall_mem_singleton.2 h

theorem save : AreMute [(.save : Operator α)] := .singleton nofun

theorem restore : AreMute [(.restore : Operator α)] := .singleton nofun

/-- Operators that build paths and clip to them show no text. -/
theorem of_isLimiting (h : ∀ operator ∈ first, operator.isLimiting = true) : AreMute first := by
  rintro operator hmem text rfl
  cases h _ hmem

theorem transform [Scalar α] (matrix : Matrix α) (pageHeight : α) : AreMute (matrix.operators pageHeight) := by
  rw [Matrix.operators]
  split
  · exact .nil
  · refine .singleton fun text h => ?_
    cases h

theorem outline [Scalar α] (path : Path α) (pageHeight : α) (matrix : Matrix α) :
    AreMute (path.operators pageHeight matrix) := by
  have hall := List.all_eq_true.1 (path.operators_isConstruction pageHeight matrix)
  exact .of_isLimiting fun operator hmem => Operator.isLimiting_of_isConstruction (hall operator hmem)

end AreMute

/-- An action that lays out no text, and whose results have a property. -/
structure Quiet (action : StateM (Ledger α) β) (property : β → Prop) : Prop where
  result : ∀ ledger, property (action ledger).1
  runs : ∀ ledger, (action ledger).2.runs = ledger.runs

namespace Quiet

variable {action : StateM (Ledger α) β} {next : β → StateM (Ledger α) γ} {property : β → Prop}
  {property' : γ → Prop}

theorem pure {result : β} (h : property result) : Quiet (pure result : StateM (Ledger α) β) property :=
  ⟨fun _ => h, fun _ => rfl⟩

theorem bind (haction : Quiet action property) (hnext : ∀ result, property result → Quiet (next result) property') :
    Quiet (action >>= next) property' where
  result ledger := (hnext _ (haction.result ledger)).result _
  runs ledger := ((hnext _ (haction.result ledger)).runs _).trans (haction.runs ledger)

theorem notify (notice : Notice α) : Quiet (Ledger.notify notice) fun _ => True := ⟨fun _ => trivial, fun _ => rfl⟩

theorem register (resource : Resource α) : Quiet (Ledger.register resource) fun _ => True :=
  ⟨fun _ => trivial, fun _ => rfl⟩

variable [Scalar α] (setting : Setting α) (document : Document α)

theorem clipRegion (style : Style α) (box : Option (Box α)) :
    Quiet (clipRegion setting document style box) AreMute := by
  have hquiet : Quiet (SvgPage.clipRegion setting document style box) fun _ => True := by
    have hshapes (shapes : List (Operator α)) :
        Quiet (Pure.pure shapes : StateM (Ledger α) _) fun _ => True := .pure trivial
    unfold SvgPage.clipRegion
    split
    · exact (hshapes _).bind fun _ _ => .pure trivial
    · dsimp only
      split
      · exact (notify _).bind fun _ _ => (hshapes _).bind fun _ _ => .pure trivial
      · exact (hshapes _).bind fun _ _ => .pure trivial
  exact ⟨fun ledger => .of_isLimiting (isLimiting_clipRegion setting document style box ledger), hquiet.runs⟩

theorem graphicsState (frame : Frame α) (style : Style α) (fillAlpha strokeAlpha : α) :
    Quiet (graphicsState frame style fillAlpha strokeAlpha) AreMute := by
  unfold SvgPage.graphicsState
  split
  · exact .pure .nil
  · exact (register _).bind fun _ _ => .pure (.singleton nofun)

/-- A run of text that is painted is laid out before. -/
theorem paintRun (frame : Frame α) (run : TextRun α) : Quiet (paintRun frame run) fun _ => True := by
  have hshown (color : DeviceColor α) (alpha : α) : Quiet (showRun frame run color alpha) fun _ => True :=
    (graphicsState ..).bind fun _ _ => .pure trivial
  unfold SvgPage.paintRun
  dsimp only
  split
  · exact .pure trivial
  · split
    · exact .pure trivial
    · exact hshown ..
    · split
      · exact hshown ..
      · exact (notify _).bind fun _ _ => .pure trivial

theorem ofColor (token : String) : Quiet (ResolvedPaint.ofColor (α := α) token) fun _ => True := by
  unfold ResolvedPaint.ofColor
  split
  · exact .pure trivial
  · exact (notify _).bind fun _ _ => .pure trivial

theorem readPaint (value : String) (style : Style α) (box : Box α) :
    Quiet (ResolvedPaint.read setting document value style box) fun _ => True := by
  unfold ResolvedPaint.read
  split
  · exact .pure trivial
  · exact ofColor _
  · dsimp only
    split
    · exact .pure trivial
    · split
      · exact ofColor _
      · exact (notify _).bind fun _ _ => .pure trivial

theorem shadingOperators (gradient : ResolvedGradient α) : Quiet (shadingOperators gradient) AreMute := by
  unfold SvgPage.shadingOperators
  split
  · exact .pure .nil
  · exact (register _).bind fun _ _ => .pure (by simp [AreMute])

theorem paintOperators {outline : List (Operator α)} (houtline : AreMute outline) (evenOdd : Bool)
    (fill stroke : ResolvedPaint α) (lineStyle : LineStyle α) :
    Quiet (paintOperators outline evenOdd fill stroke lineStyle) AreMute := by
  have hpaint (operator : PaintOperator) : AreMute [(.paint operator : Operator α)] := .singleton nofun
  have harea (color : DeviceColor α) (operator : PaintOperator) :
      AreMute ([.fillColor color] ++ outline ++ [.paint operator]) := by
    have hcolor : AreMute [.fillColor color] := .singleton nofun
    exact (hcolor.append houtline).append (hpaint operator)
  have hpen (color : DeviceColor α) : AreMute [.lineStyle lineStyle, .strokeColor color] := by simp [AreMute]
  have hline := houtline.append (hpaint .stroke)
  unfold SvgPage.paintOperators
  cases fill with
  | none =>
    cases stroke with
    | color line => exact .pure ((AreMute.nil.append (hpen _)).append hline)
    | _ => exact .pure .nil
  | color area =>
    cases stroke with
    | color line => exact .pure ((AreMute.nil.append (hpen _)).append (harea _ _))
    | _ => exact .pure (harea _ _)
  | gradient gradient =>
    refine (shadingOperators gradient).bind fun shading hshading => ?_
    have hshaded := (((AreMute.save.append houtline).append
      (hpaint (if evenOdd then .clipEvenOdd else .clip))).append hshading).append .restore
    cases stroke with
    | color line => exact .pure ((hshaded.append (hpen _)).append hline)
    | _ => exact .pure ((hshaded.append .nil).append .nil)

/-- A graphics state that is saved for the content of an element, with its map and its clip region. -/
theorem prologue (transform : Matrix α) {clip state : List (Operator α)} (hclip : AreMute clip)
    (hstate : AreMute state) :
    AreMute ([.save] ++ transform.operators setting.pageHeight ++ clip ++ state) :=
  ((AreMute.save.append (.transform transform setting.pageHeight)).append hclip).append hstate

theorem paintPath (path : Path α) (style : Style α) (transform : Matrix α) :
    Quiet (paintPath setting document path style transform) AreMute := by
  unfold SvgPage.paintPath
  refine (readPaint ..).bind fun fill _ => (readPaint ..).bind fun stroke _ => ?_
  dsimp only
  split
  · exact .pure .nil
  · refine (clipRegion ..).bind fun clip hclip => (graphicsState ..).bind fun state hstate => ?_
    refine (paintOperators (.outline path _ _) ..).bind fun painted hpainted => .pure ?_
    exact ((prologue setting transform hclip hstate).append hpainted).append .restore

theorem drawShape (kind : ShapeKind) (attributes : Attributes) :
    Quiet (document.drawShape setting kind attributes) fun result =>
      ∃ operators, AreMute operators ∧ result = document.write operators := by
  have hsame : ∃ operators, AreMute operators ∧ document = document.write operators :=
    ⟨[], .nil, (Document.write_nil document).symm⟩
  unfold Document.drawShape
  dsimp only
  split
  · exact .pure hsame
  · split
    · exact .pure hsame
    · exact (paintPath ..).bind fun _ hpainted => .pure ⟨_, hpainted, rfl⟩

theorem openGroup (attributes : Attributes) :
    Quiet (document.openGroup setting attributes) fun opened =>
      let frame := document.frame
      let style := frame.style.resolve attributes setting.options.dpi
      let inner : Frame α :=
        { frame with
          style
          ctm := frame.ctm.multiply attributes.transform
          opacity := frame.opacity * style.number .opacity
          blendMode := frame.blend style.blendMode }
      ∃ operators, AreMute operators ∧ opened = ((document.enter inner).write operators, .scope frame) :=
  (clipRegion ..).bind fun _ hclip => (graphicsState ..).bind fun _ hstate =>
    .pure ⟨_, prologue setting _ hclip hstate, rfl⟩

/-- A text begins behind its graphics state, where its attributes place it. -/
theorem openText (attributes : Attributes) :
    Quiet (document.openText setting attributes) fun opened =>
      let frame := document.frame
      let style := frame.style.resolve attributes setting.options.dpi
      let context := style.lengthContext setting.options.dpi
      let text : TextState α :=
        { depth := document.openElements.length
          x := (Document.readPosition? attributes "x" frame.viewport.width context).getD 0 +
            Document.readShift attributes "dx"
          y := (Document.readPosition? attributes "y" frame.viewport.height context).getD 0 +
            Document.readShift attributes "dy"
          pending := ""
          collapse := true }
      let inner : Frame α := { frame with style, ctm := frame.ctm.multiply attributes.transform }
      ∃ operators, AreMute operators ∧
        opened = (({ document with text := some text }.enter inner).write operators, .text frame document.text) := by
  refine (clipRegion ..).bind fun clip hclip => .pure ?_
  have hwritten (transform : Matrix α) :=
    (AreMute.save.append (.transform transform setting.pageHeight)).append hclip
  exact ⟨_, hwritten _, rfl⟩

end Quiet

end SvgPage
