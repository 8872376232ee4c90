import SvgPage.Proofs.Drawing.Intends

namespace SvgPage

variable {α : Type}

/-- Operators that build nothing but an outline, a number of times, once they leave marks on the page. -/
def Traces (outline : List (Operator α)) (copies : Nat) (operators : List (Operator α)) : Prop :=
  ∃ before after, operators = before ++ after ∧ (∀ operator ∈ before, operator.isPainting = false) ∧
    after.filter Operator.isConstruction = (List.replicate copies outline).flatten

theorem Traces.nil (outline : List (Operator α)) : Traces outline 0 [] :=
  ⟨[], [], rfl, List.forall_mem_nil _, rfl⟩

theorem Traces.restored {outline before painted : List (Operator α)} {copies : Nat}
    (hbefore : ∀ operator ∈ before, operator.isPainting = false)
    (hpainted : painted.filter Operator.isConstruction = (List.replicate copies outline).flatten) :
    Traces outline copies (before ++ painted ++ [.restore]) := by
  refine ⟨before, painted ++ [.restore], List.append_assoc .., hbefore, ?_⟩
  rw [List.filter_append, hpainted]
  exact List.append_nil _

variable [Scalar α]

theorem ResolvedPaint.forStroke_ne_gradient (paint : ResolvedPaint α) (lineStyle : LineStyle α)
    (gradient : ResolvedGradient α) : paint.forStroke lineStyle ≠ .gradient gradient := by
  intro h
  unfold forStroke at h
  split at h
  · cases h
  · split at h
    · split at h <;> cases h
    next hother => exact hother gradient h

theorem filter_shadingOperators (gradient : ResolvedGradient α) (ledger : Ledger α) :
    (shadingOperators gradient ledger).1.filter Operator.isConstruction = [] := by
  rw [shadingOperators]
  cases Shading.ofGradient? gradient <;> rfl

theorem not_isPainting_graphicsState (frame : Frame α) (style : Style α) (fillAlpha strokeAlpha : α)
    (ledger : Ledger α) :
    ∀ operator ∈ (graphicsState frame style fillAlpha strokeAlpha ledger).1, operator.isPainting = false := by
  rw [graphicsState]
  split
  · exact List.forall_mem_nil _
  · exact List.forall_mem_singleton.2 rfl

theorem not_isPainting_transform (matrix : Matrix α) (pageHeight : α) :
    ∀ operator ∈ matrix.operators pageHeight, operator.isPainting = false := by
  rw [Matrix.operators]
  split
  · exact List.forall_mem_nil _
  · exact List.forall_mem_singleton.2 rfl

/-- An outline is built as often as there are paints for it, or once for both of them. -/
theorem filter_paintOperators {outline : List (Operator α)} (houtline : outline.all Operator.isConstruction = true)
    (evenOdd : Bool) {fill stroke : ResolvedPaint α} (hpaint : (fill.isNone && stroke.isNone) = false)
    (hstroke : ∀ gradient, stroke ≠ .gradient gradient) (lineStyle : LineStyle α) (ledger : Ledger α) :
    ∃ copies, 0 < copies ∧
      (paintOperators outline evenOdd fill stroke lineStyle ledger).1.filter Operator.isConstruction =
        (List.replicate copies outline).flatten := by
  have hsame : outline.filter Operator.isConstruction = outline :=
    List.filter_eq_self.2 (List.all_eq_true.1 houtline)
  cases fill with
  | none =>
    cases stroke with
    | none => cases hpaint
    | gradient gradient => exact absurd rfl (hstroke gradient)
    | color line =>
      refine ⟨1, Nat.one_pos, ?_⟩
      simp [paintOperators, pure_apply, hsame, Operator.isConstruction]
  | color area =>
    refine ⟨1, Nat.one_pos, ?_⟩
    cases stroke with
    | gradient gradient => exact absurd rfl (hstroke gradient)
    | none => simp [paintOperators, pure_apply, hsame, Operator.isConstruction]
    | color line => simp [paintOperators, pure_apply, hsame, Operator.isConstruction]
  | gradient gradient =>
    cases stroke with
    | gradient gradient => exact absurd rfl (hstroke gradient)
    | none =>
      refine ⟨1, Nat.one_pos, ?_⟩
      simp only [paintOperators, bind_apply, pure_apply]
      simp [hsame, filter_shadingOperators, Operator.isConstruction]
    | color line =>
      refine ⟨2, Nat.two_pos, ?_⟩
      simp only [paintOperators, bind_apply, pure_apply]
      simp [hsame, filter_shadingOperators, Operator.isConstruction]

namespace Document

/-- Whether there is anything to paint a shape with, and it is not hidden. -/
def paintsShape (setting : Setting α) (document : Document α) (style : Style α) (path : Path α) : Bool :=
  !(style.isInvisible || document.frame.hidden) &&
    !((document.fillOf setting style path).isNone && (document.strokeOf setting style path).isNone)

variable (setting : Setting α) (document : Document α)

/-- A path is painted by operators that build its outline where a map is in force that has been set before. -/
theorem traces_paintPath {style : Style α} {path : Path α}
    (hpaint : ((document.fillOf setting style path).isNone && (document.strokeOf setting style path).isNone) = false)
    (transform : Matrix α) (ledger : Ledger α) :
    ∃ copies, 0 < copies ∧ Traces (path.operators setting.pageHeight .identity) copies
      (paintPath setting document path style transform ledger).1 := by
  have hstroke : ∀ gradient, document.strokeOf setting style path ≠ .gradient gradient := by
    unfold strokeOf
    exact ResolvedPaint.forStroke_ne_gradient _ _
  have hbuilt := filter_paintOperators (path.operators_isConstruction setting.pageHeight .identity)
    (style.text .fillRule == "evenodd") hpaint hstroke
    (style.lineStyle document.frame.viewport (style.lengthContext setting.options.dpi))
  have hclip := isLimiting_clipRegion setting document style
  simp only [paintPath, bind_apply, fillOf_eq, strokeOf_eq, hpaint, Bool.false_eq_true, if_false, pure_apply]
  refine (hbuilt _).imp fun copies hcopies => ⟨hcopies.1, .restored ?_ hcopies.2⟩
  simp only [List.forall_mem_append, List.forall_mem_singleton]
  refine ⟨⟨⟨rfl, not_isPainting_transform _ _⟩, fun operator hmem => ?_⟩, not_isPainting_graphicsState _ _ _ _ _⟩
  exact Operator.isPainting_of_isLimiting (hclip _ _ operator hmem)

/-- What a shape writes builds nothing but its outline, and does so if the shape is painted at all. -/
theorem drawShape_traces (kind : ShapeKind) (attributes : Attributes) (ledger : Ledger α) :
    let style := document.frame.style.resolve attributes setting.options.dpi
    ∃ operators, (document.drawShape setting kind attributes ledger).1 = document.write operators ∧
      ((document.shapeContext setting style).path? attributes kind = none → operators = []) ∧
      ∀ path, (document.shapeContext setting style).path? attributes kind = some path →
        ∃ copies, Traces (path.operators setting.pageHeight .identity) copies operators ∧
          (copies = 0 → operators = []) ∧ (0 < copies ↔ document.paintsShape setting style path = true) := by
  intro style
  have hwrite : document.write [] = document := by
    simp only [write, Array.appendList_nil]
  rw [drawShape]
  cases hpath : (document.shapeContext setting style).path? attributes kind with
  | none => exact ⟨[], hwrite.symm, fun _ => rfl, fun path h => by cases h⟩
  | some path =>
    have hnothing (hpaints : document.paintsShape setting style path = false) : ∀ other, some path = some other →
        ∃ copies, Traces (other.operators setting.pageHeight .identity) copies [] ∧
          (copies = 0 → ([] : List (Operator α)) = []) ∧
          (0 < copies ↔ document.paintsShape setting style other = true) := by
      rintro other ⟨⟩
      refine ⟨0, .nil _, fun _ => rfl, ?_⟩
      rw [hpaints]
      exact ⟨fun h => absurd h (Nat.lt_irrefl 0), fun h => absurd h Bool.false_ne_true⟩
    dsimp only
    by_cases hunseen : (style.isInvisible || document.frame.hidden) = true
    · rw [if_pos hunseen]
      refine ⟨[], hwrite.symm, fun _ => rfl, hnothing ?_⟩
      rw [paintsShape, hunseen]
      rfl
    · rw [if_neg hunseen]
      simp only [bind_apply, pure_apply]
      refine ⟨_, rfl, fun h => (by cases h), ?_⟩
      rw [Bool.not_eq_true] at hunseen
      cases hpaint : ((document.fillOf setting style path).isNone &&
          (document.strokeOf setting style path).isNone) with
      | true =>
        have hempty (transform : Matrix α) : (paintPath setting document path style transform ledger).1 = [] := by
          simp only [paintPath, bind_apply, fillOf_eq, strokeOf_eq, hpaint, if_true, pure_apply]
        rw [hempty]
        apply hnothing
        rw [paintsShape, hpaint, Bool.not_true, Bool.and_false]
      | false =>
        obtain ⟨copies, hpositive, htraces⟩ := document.traces_paintPath setting hpaint
          (Transform.read ((attributes.get? "transform").getD "")) ledger
        rintro other ⟨⟩
        refine ⟨copies, htraces, fun h => absurd h (Nat.ne_of_gt hpositive), fun _ => ?_, fun _ => hpositive⟩
        rw [paintsShape, hunseen, hpaint]
        rfl

end Document

end SvgPage
