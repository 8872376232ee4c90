import SvgPage.Proofs.Drawing.Realizes

namespace SvgPage

variable {α : Type} [Scalar α]

open GraphicsState

/-- Where something is painted, alphas and blend mode are as intended; where a path is built, so is the
    map. -/
def marks (pageHeight : α) (intended : GraphicsState α) : Concern α where
  holds operator actual :=
    (operator.isPainting = true → intended.Covers actual) ∧
      (operator.isConstruction = true → Scalar.Exact α →
        actual.matrix = intended.matrix.flip pageHeight)
  of_quiet := by
    intro operator state hpainting hconstruction
    rw [hpainting, hconstruction]
    exact ⟨fun h => (Bool.false_ne_true h).elim, fun h => (Bool.false_ne_true h).elim⟩

theorem marks_of_realizes {pageHeight : α} {intended actual : GraphicsState α}
    (h : intended.Realizes pageHeight actual) (operator : Operator α) :
    (marks pageHeight intended).holds operator actual :=
  ⟨fun _ => h.covers, fun _ => h.matrix⟩

theorem marks_of_isLimiting {pageHeight : α} {intended before actual : GraphicsState α} {operator : Operator α}
    (hmatrix : before.matrix = intended.matrix) (hoperator : operator.isLimiting = true)
    (h : before.Realizes pageHeight actual) : (marks pageHeight intended).holds operator actual := by
  refine ⟨fun hpainting => ?_, fun _ => hmatrix ▸ h.matrix⟩
  rw [Operator.isPainting_of_isLimiting hoperator] at hpainting
  cases hpainting

section Limits

theorem isLimiting_clipOperators (box : Box α) (pageHeight : α) :
    ∀ operator ∈ box.clipOperators pageHeight, operator.isLimiting = true := by
  simp [Box.clipOperators, Operator.isLimiting, Operator.isConstruction, PaintOperator.clips]

theorem isLimiting_clipShapes (pageHeight : α) (shapes : List (ClipShape α)) :
    ∀ operator ∈ clipShapes pageHeight shapes, operator.isLimiting = true := by
  cases shapes with
  | nil => simp [clipShapes, Operator.isLimiting, Operator.isConstruction, PaintOperator.clips]
  | cons first rest =>
    intro operator hmem
    obtain hmem | hmem := List.mem_append.1 hmem
    · obtain ⟨shape, -, hshape⟩ := List.mem_flatMap.1 hmem
      have hall := shape.path.operators_isConstruction pageHeight shape.matrix
      exact Operator.isLimiting_of_isConstruction (List.all_eq_true.1 hall operator hshape)
    · rw [List.mem_singleton.1 hmem]
      cases first.evenOdd <;> rfl

theorem isLimiting_clipRegion (setting : Setting α) (document : Document α) (style : Style α)
    (box : Option (Box α)) (ledger : Ledger α) :
    ∀ operator ∈ (clipRegion setting document style box ledger).1, operator.isLimiting = true := by
  have hinsets : ∀ operator ∈ (box.bind fun box =>
      (Css.ClipInsets.read? (style.text .clip) (style.lengthContext setting.options.dpi)).map
        (clipInsets setting.pageHeight box)).getD [], operator.isLimiting = true := by
    cases box with
    | none => exact List.forall_mem_nil _
    | some box =>
      rw [Option.bind_some]
      cases Css.ClipInsets.read? (style.text .clip) (style.lengthContext setting.options.dpi) with
      | none => exact List.forall_mem_nil _
      | some insets => exact isLimiting_clipOperators _ _
  have happend {shapes : List (Operator α)} (hshapes : ∀ operator ∈ shapes, operator.isLimiting = true) :=
    List.forall_mem_append.2 ⟨hshapes, hinsets⟩
  rw [clipRegion]
  cases Css.UrlReference.read? (style.text .clipPath) with
  | none => exact happend (List.forall_mem_nil _)
  | some reference =>
    dsimp only
    cases document.clipPaths.get? reference.id with
    | none => exact happend (List.forall_mem_nil _)
    | some shapes => exact happend (isLimiting_clipShapes _ shapes)

end Limits

section Painting

variable {resources : List (Resource α)} {pageHeight : α} {intended : GraphicsState α}

/-- A figure is painted as intended, and leaves the graphics state as it is. -/
abbrev Paints (resources : List (Resource α)) (pageHeight : α) (intended before : GraphicsState α)
    (operators : List (Operator α)) : Prop :=
  Leaves resources (marks pageHeight intended) pageHeight before operators

/-- Where all is as intended, any operators can stand that do not change it. -/
theorem paints_of_not_changesState {operators : List (Operator α)}
    (hkeeps : ∀ operator ∈ operators, operator.changesState = false) :
    Paints resources pageHeight intended intended operators :=
  .of_not_changesState hkeeps fun operator _ _ h => marks_of_realizes h operator

theorem paints_outline {outline : List (Operator α)} (houtline : outline.all Operator.isConstruction = true) :
    Paints resources pageHeight intended intended outline :=
  paints_of_not_changesState fun operator hmem =>
    Operator.changesState_of_isLimiting
      (Operator.isLimiting_of_isConstruction (List.all_eq_true.1 houtline operator hmem))

/-- What is painted under a map of its own is of no account to the map of its element. -/
theorem reads_mapped {actual : GraphicsState α} {saved : List (GraphicsState α)}
    (h : intended.Realizes pageHeight actual) (matrix : Matrix α) (operator : Operator α)
    (hkeeps : operator.changesState = false) (hconstruction : operator.isConstruction = false) :
    ∃ last, Reads resources (marks pageHeight intended).holds ⟨actual, saved⟩ [.transform matrix, operator]
      ⟨last, saved⟩ := by
  have hcovers : intended.Covers { actual with matrix := actual.matrix.multiply matrix } :=
    ⟨h.covers.fillAlpha, h.covers.strokeAlpha, h.covers.blendMode⟩
  have hholds : (marks pageHeight intended).holds operator
      { actual with matrix := actual.matrix.multiply matrix } := by
    refine ⟨fun _ => hcovers, fun hpath => ?_⟩
    rw [hconstruction] at hpath
    cases hpath
  exact ⟨_, .cons ((marks _ _).of_quiet _ rfl rfl) rfl
    (.cons hholds (Operator.read_of_not_changesState hkeeps _ _) .nil)⟩

theorem paints_shading {outline : List (Operator α)} (houtline : outline.all Operator.isConstruction = true)
    (operator : PaintOperator) (gradient : ResolvedGradient α) (ledger : Ledger α) :
    Paints resources pageHeight intended intended
      ([.save] ++ outline ++ [.paint operator] ++ (shadingOperators gradient ledger).1 ++ [.restore]) := by
  have hclip : Adjusts resources (marks pageHeight intended) pageHeight intended
      (outline ++ [.paint operator]) intended :=
    .of_leaves ((paints_outline houtline).append
      (paints_of_not_changesState (List.forall_mem_singleton.2 rfl)))
  have hshaded : Paints resources pageHeight intended intended
      ([.save] ++ (outline ++ [.paint operator]) ++ (shadingOperators gradient ledger).1 ++ [.restore]) := by
    apply hclip.leaves_saved
    intro actual saved h
    rw [shadingOperators]
    cases Shading.ofGradient? gradient with
    | none => exact ⟨actual, .nil⟩
    | some shading => exact reads_mapped h gradient.placement (.shading _) rfl rfl
  rwa [← List.append_assoc] at hshaded

theorem paints_paintOperators {outline : List (Operator α)}
    (houtline : outline.all Operator.isConstruction = true) (evenOdd : Bool) (fill stroke : ResolvedPaint α)
    (lineStyle : LineStyle α) (ledger : Ledger α) :
    Paints resources pageHeight intended intended
      (paintOperators outline evenOdd fill stroke lineStyle ledger).1 := by
  have hpath : Paints resources pageHeight intended intended outline := paints_outline houtline
  have hpaint (operator : PaintOperator) : Paints resources pageHeight intended intended [.paint operator] :=
    paints_of_not_changesState (List.forall_mem_singleton.2 rfl)
  have hpen (resolved : ResolvedColor α) : Paints resources pageHeight intended intended
      [.lineStyle lineStyle, .strokeColor resolved.color] :=
    paints_of_not_changesState (by simp [Operator.changesState])
  have harea (resolved : ResolvedColor α) (operator : PaintOperator) :
      Paints resources pageHeight intended intended
        ([.fillColor resolved.color] ++ outline ++ [.paint operator]) :=
    ((paints_of_not_changesState (List.forall_mem_singleton.2 rfl)).append hpath).append (hpaint operator)
  have hstroke := hpath.append (hpaint .stroke)
  cases fill with
  | none =>
    cases stroke with
    | color line => exact (Leaves.nil.append (hpen line)).append hstroke
    | _ => exact .nil
  | color area =>
    cases stroke with
    | color line => exact (Leaves.nil.append (hpen line)).append (harea area _)
    | _ => exact (Leaves.nil.append .nil).append (harea area _)
  | gradient gradient =>
    have hshaded : Paints resources pageHeight intended intended _ :=
      paints_shading houtline (if evenOdd then .clipEvenOdd else .clip) gradient ledger
    cases stroke with
    | color line => exact (hshaded.append (hpen line)).append hstroke
    | _ => exact (hshaded.append .nil).append .nil

theorem paints_imageOperators (placement : Matrix α) (bytes : List UInt8) (ledger : Ledger α) :
    Paints resources pageHeight intended intended (imageOperators placement bytes ledger).1 := by
  have hbegin : Adjusts resources (marks pageHeight intended) pageHeight intended [] intended := .nil
  have hshown : Paints resources pageHeight intended intended ([.save] ++ [] ++
      [.transform placement, .image (Resource.numberAfter ledger.resources .image)] ++ [.restore]) := by
    apply hbegin.leaves_saved
    intro actual saved h
    exact reads_mapped h placement (.image _) rfl rfl
  exact hshown

end Painting

end SvgPage
