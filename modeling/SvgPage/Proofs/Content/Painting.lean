import SvgPage.Drawing.Text
import SvgPage.Proofs.Content.Fragment

namespace SvgPage

section Action

variable {σ β γ : Type}

theorem bind_apply (action : StateM σ β) (next : β → StateM σ γ) (state : σ) :
    (action >>= next) state = next (action state).1 (action state).2 := rfl

theorem pure_apply (result : β) (state : σ) : (pure result : StateM σ β) state = (result, state) := rfl

end Action

variable {α : Type} [Scalar α]

theorem Matrix.operators_cases (matrix : Matrix α) (pageHeight : α) :
    matrix.operators pageHeight = [] ∨ ∃ mapped, matrix.operators pageHeight = [.transform mapped] := by
  rw [Matrix.operators]
  split
  · exact .inl rfl
  · exact .inr ⟨_, rfl⟩

theorem Matrix.block_operators (matrix : Matrix α) (pageHeight : α) :
    Block (matrix.operators pageHeight) := by
  obtain hnone | ⟨mapped, hmapped⟩ := matrix.operators_cases pageHeight
  · rw [hnone]
    exact .nil
  · rw [hmapped]
    exact Operator.block_of_isPlain rfl

theorem block_graphicsState (frame : Frame α) (style : Style α) (fillAlpha strokeAlpha : α)
    (ledger : Ledger α) : Block (graphicsState frame style fillAlpha strokeAlpha ledger).1 := by
  rw [graphicsState]
  split
  · exact .nil
  · exact Operator.block_of_isPlain rfl

omit [Scalar α] in
theorem clipping_rect (box : Box α) : Clipping [.rect box, .paint .clip] := by
  have houtline : [Operator.rect box].all Operator.isConstruction = true := rfl
  exact clipping_path houtline .clip

theorem Box.clipping_clipOperators (box : Box α) (pageHeight : α) : Clipping (box.clipOperators pageHeight) :=
  clipping_rect _

theorem clipping_clipShapes (pageHeight : α) (shapes : List (ClipShape α)) :
    Clipping (clipShapes pageHeight shapes) := by
  cases shapes with
  | nil => exact clipping_rect _
  | cons first rest =>
    refine clipping_path ?_ _
    rw [List.all_flatMap]
    exact List.all_eq_true.2 fun shape _ => shape.path.operators_isConstruction _ _

/-- What limits an element to its clip path, and to the rectangle in its style, only clips. -/
theorem clipping_clipRegion (setting : Setting α) (document : Document α) (style : Style α)
    (box : Option (Box α)) (ledger : Ledger α) :
    Clipping (clipRegion setting document style box ledger).1 := by
  have hinsets (insets : Option (Css.ClipInsets α)) (box : Box α) :
      Clipping ((insets.map (clipInsets setting.pageHeight box)).getD []) := by
    cases insets with
    | none => exact Block.nil.clipping
    | some insets => exact Box.clipping_clipOperators _ _
  have hbox : Clipping ((box.bind fun box =>
      (Css.ClipInsets.read? (style.text .clip) (style.lengthContext setting.options.dpi)).map
        (clipInsets setting.pageHeight box)).getD []) := by
    cases box with
    | none => exact Block.nil.clipping
    | some box => exact hinsets _ box
  rw [clipRegion]
  cases Css.UrlReference.read? (style.text .clipPath) with
  | none => exact Block.nil.clipping.append hbox
  | some reference =>
    dsimp only
    cases document.clipPaths.get? reference.id with
    | none => exact Block.nil.clipping.append hbox
    | some shapes => exact (clipping_clipShapes _ shapes).append hbox

theorem block_shadingOperators (gradient : ResolvedGradient α) (ledger : Ledger α) :
    Block (shadingOperators gradient ledger).1 := by
  rw [shadingOperators]
  cases Shading.ofGradient? gradient with
  | none => exact .nil
  | some shading => exact Operator.block_of_isPlain rfl

omit [Scalar α] in
theorem block_imageOperators (placement : Matrix α) (bytes : List UInt8) (ledger : Ledger α) :
    Block (imageOperators placement bytes ledger).1 :=
  have hpainted (number : Nat) : Block [.transform placement, .image number] := Operator.block_of_isPlain rfl
  (hpainted _).clipping.block

theorem block_paintOperators {outline : List (Operator α)} (houtline : outline.all Operator.isConstruction = true)
    (evenOdd : Bool) (fill stroke : ResolvedPaint α) (lineStyle : LineStyle α) (ledger : Ledger α) :
    Block (paintOperators outline evenOdd fill stroke lineStyle ledger).1 := by
  have hshaded (gradient : ResolvedGradient α) : Block ([.save] ++ outline ++
      [.paint (if evenOdd then .clipEvenOdd else .clip)] ++ (shadingOperators gradient ledger).1 ++
      [.restore]) := by
    have hclip := clipping_path houtline (if evenOdd then .clipEvenOdd else .clip)
    have hinner := (hclip.append (block_shadingOperators gradient ledger).clipping).block
    simpa only [List.cons_append, List.nil_append, List.append_assoc] using hinner
  have hpen (resolved : ResolvedColor α) :
      Block [.lineStyle lineStyle, .strokeColor resolved.color] := Operator.block_of_isPlain rfl
  have harea (resolved : ResolvedColor α) {operator : PaintOperator} (hoperator : operator.clips = false) :
      Block ([.fillColor resolved.color] ++ outline ++ [.paint operator]) := by
    rw [List.append_assoc]
    exact (Operator.block_of_isPlain rfl).append (block_path houtline hoperator)
  have hfillStroke : (if evenOdd then PaintOperator.fillStrokeEvenOdd else .fillStroke).clips = false := by
    cases evenOdd <;> rfl
  have hfill : (if evenOdd then PaintOperator.fillEvenOdd else .fill).clips = false := by
    cases evenOdd <;> rfl
  have hstroke : Block (outline ++ [.paint .stroke]) := block_path houtline rfl
  cases fill with
  | none =>
    cases stroke with
    | color line => exact (Block.nil.append (hpen line)).append hstroke
    | _ => exact .nil
  | color area =>
    cases stroke with
    | color line => exact (Block.nil.append (hpen line)).append (harea area hfillStroke)
    | _ => exact (Block.nil.append .nil).append (harea area hfill)
  | gradient gradient =>
    cases stroke with
    | color line => exact ((hshaded gradient).append (hpen line)).append hstroke
    | _ => exact ((hshaded gradient).append .nil).append .nil

omit [Scalar α] in
/-- A drawing in a graphics state of its own, which has the map and the clip region of an element. -/
theorem block_drawing {transform clip state painted : List (Operator α)} (htransform : Block transform)
    (hclip : Clipping clip) (hstate : Block state) (hpainted : Block painted) :
    Block ([.save] ++ transform ++ clip ++ state ++ painted ++ [.restore]) := by
  have hinner := ((htransform.clipping.append hclip).append hstate.clipping).append hpainted.clipping
  simpa only [List.cons_append, List.nil_append] using hinner.block

omit [Scalar α] in
/-- The graphics state of an element and its content. -/
theorem prologue_scope {transform clip state : List (Operator α)} (htransform : Block transform)
    (hclip : Clipping clip) (hstate : Block state) : Prologue ([.save] ++ transform ++ clip ++ state) := by
  have hinner := (htransform.clipping.append hclip).append hstate.clipping
  simpa only [List.cons_append, List.nil_append] using hinner.prologue

/-- Painting a path leaves the graphics state as it is. -/
theorem block_paintPath (setting : Setting α) (document : Document α) (path : Path α) (style : Style α)
    (transform : Matrix α) (ledger : Ledger α) :
    Block (paintPath setting document path style transform ledger).1 := by
  simp only [paintPath, bind_apply]
  split
  · exact .nil
  · simp only [bind_apply, pure_apply]
    have houtline := path.operators_isConstruction setting.pageHeight .identity
    exact block_drawing (transform.block_operators _) (clipping_clipRegion ..) (block_graphicsState ..)
      (block_paintOperators houtline ..)

/-- Painting a shape leaves the graphics state as it is. -/
theorem Document.drawShape_eq (setting : Setting α) (document : Document α) (kind : ShapeKind)
    (attributes : Attributes) (ledger : Ledger α) :
    ∃ operators, Block operators ∧
      (document.drawShape setting kind attributes ledger).1 = document.write operators := by
  have hwrite : document.write [] = document := by
    simp only [write, Array.appendList_nil]
  rw [drawShape]
  cases (document.shapeContext setting _).path? attributes kind with
  | none => exact ⟨[], .nil, hwrite.symm⟩
  | some path =>
    dsimp only
    split
    · exact ⟨[], .nil, hwrite.symm⟩
    · simp only [bind_apply, pure_apply]
      exact ⟨_, block_paintPath .., rfl⟩

theorem Document.drawPixels_eq (setting : Setting α) (document : Document α) (style : Style α)
    (transform : Matrix α) (box : Box α) (bytes : List UInt8) (ledger : Ledger α) :
    ∃ operators, Block operators ∧
      (document.drawPixels setting style transform box bytes ledger).1 = document.write operators :=
  ⟨_, block_drawing (transform.block_operators _) (clipping_clipRegion ..) (block_graphicsState ..)
    (block_imageOperators ..), rfl⟩

theorem block_showRun (frame : Frame α) (run : TextRun α) (color : DeviceColor α) (colorAlpha : α)
    (ledger : Ledger α) : Block (showRun frame run color colorAlpha ledger).1 := by
  have hcolor : Block [.fillColor color] := Operator.block_of_isPlain rfl
  have hpainted : Block (.fillColor color :: run.operators) := hcolor.append run.block_operators
  simp only [showRun, bind_apply, pure_apply]
  split
  · exact hpainted
  · simp only [List.cons_append, List.nil_append]
    exact ((block_graphicsState ..).append hpainted).clipping.block

/-- Painting a run of text leaves the graphics state as it is. -/
theorem block_paintRun (frame : Frame α) (run : TextRun α) (ledger : Ledger α) :
    Block (paintRun frame run ledger).1 := by
  rw [paintRun]
  split
  · exact .nil
  · cases Paint.read (frame.style.text .fill) frame.style with
    | none => exact .nil
    | gradient id fallback => exact block_showRun ..
    | color token =>
      dsimp only
      cases (ResolvedColor.read? token : Option (ResolvedColor α)) with
      | some resolved => exact block_showRun ..
      | none => exact .nil

end SvgPage
