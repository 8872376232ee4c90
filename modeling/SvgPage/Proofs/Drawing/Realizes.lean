import SvgPage.Proofs.Content.GraphicsState
import SvgPage.Proofs.Content.Painting
import SvgPage.Proofs.Geometry.Flip

namespace SvgPage

variable {α : Type} [Scalar α]

namespace GraphicsState

/-- The alphas and the blend mode of one graphics state stand for those of another. -/
structure Covers (intended actual : GraphicsState α) : Prop where
  fillAlpha : Scalar.Agrees intended.fillAlpha actual.fillAlpha
  strokeAlpha : Scalar.Agrees intended.strokeAlpha actual.strokeAlpha
  blendMode : actual.blendMode = intended.blendMode

/-- A graphics state of a page is what is intended by one in which ordinates count from the upper edge.
    Maps are compared where numbers are exact. -/
structure Realizes (pageHeight : α) (intended actual : GraphicsState α) : Prop where
  covers : Covers intended actual
  matrix : Scalar.Exact α → actual.matrix = intended.matrix.flip pageHeight

theorem Realizes.initial (pageHeight : α) : Realizes pageHeight (.initial : GraphicsState α) .initial :=
  ⟨⟨.refl _, .refl _, rfl⟩, fun _ => (Matrix.flip_identity pageHeight).symm⟩

/-- Maps only have to be the same where numbers are exact. -/
theorem Realizes.of_matrix {pageHeight : α} {matrix other : Matrix α} {fillAlpha strokeAlpha : α}
    {blendMode : BlendMode} {actual : GraphicsState α}
    (h : Realizes pageHeight ⟨matrix, fillAlpha, strokeAlpha, blendMode⟩ actual)
    (hmatrix : Scalar.Exact α → matrix = other) :
    Realizes pageHeight ⟨other, fillAlpha, strokeAlpha, blendMode⟩ actual :=
  ⟨⟨h.covers.fillAlpha, h.covers.strokeAlpha, h.covers.blendMode⟩,
    fun hexact => hmatrix hexact ▸ h.matrix hexact⟩

end GraphicsState

namespace Frame

/-- The graphics state that an element hands down to its children. -/
def graphics (frame : Frame α) : GraphicsState α :=
  ⟨frame.ctm, frame.opacity, frame.opacity, frame.blendMode⟩

/-- The same under another map. -/
def mappedGraphics (frame : Frame α) (transform : Matrix α) : GraphicsState α :=
  { frame.graphics with matrix := frame.ctm.multiply transform }

/-- The graphics state of an element in a frame, with a map, a style and alphas. -/
def elementGraphics (frame : Frame α) (transform : Matrix α) (style : Style α) (fillAlpha strokeAlpha : α) :
    GraphicsState α :=
  ⟨frame.ctm.multiply transform, fillAlpha, strokeAlpha, frame.blend style.blendMode⟩

end Frame

namespace Operator

/-- Whether an operator only limits what is painted after it: it builds a path, or clips to one. -/
def isLimiting : Operator α → Bool
  | paint operator => operator.clips
  | operator => operator.isConstruction

omit [Scalar α] in
theorem changesState_of_isLimiting {operator : Operator α} (h : operator.isLimiting = true) :
    operator.changesState = false := by
  cases operator <;> first | rfl | cases h

omit [Scalar α] in
theorem isPainting_of_isLimiting {operator : Operator α} (h : operator.isLimiting = true) :
    operator.isPainting = false := by
  cases operator with
  | paint operator =>
    cases operator with
    | clip | clipEvenOdd => rfl
    | _ => cases h
  | _ => first | rfl | cases h

omit [Scalar α] in
theorem isLimiting_of_isConstruction {operator : Operator α} (h : operator.isConstruction = true) :
    operator.isLimiting = true := by
  cases operator <;> first | exact h | cases h

end Operator

/-- What is asked of operators where they stand. It must not depend on those that neither paint nor build a
    path. -/
structure Concern (α : Type) where
  holds : Operator α → GraphicsState α → Prop
  of_quiet : ∀ {operator} state, operator.isPainting = false → operator.isConstruction = false →
    holds operator state

section Fragments

variable (resources : List (Resource α)) (concern : Concern α) (pageHeight : α)

/-- Operators change the graphics state in force from what is intended by one to what is intended by
    another. -/
def Adjusts (before : GraphicsState α) (operators : List (Operator α)) (after : GraphicsState α) : Prop :=
  ∀ actual saved, before.Realizes pageHeight actual →
    ∃ next, Reads resources concern.holds ⟨actual, saved⟩ operators ⟨next, saved⟩ ∧
      after.Realizes pageHeight next

/-- Operators leave the graphics state as it is. -/
def Leaves (intended : GraphicsState α) (operators : List (Operator α)) : Prop :=
  ∀ actual saved, intended.Realizes pageHeight actual →
    Reads resources concern.holds ⟨actual, saved⟩ operators ⟨actual, saved⟩

variable {resources concern pageHeight} {before middle after intended : GraphicsState α}
  {first second operators : List (Operator α)}

namespace Leaves

theorem nil : Leaves resources concern pageHeight intended [] := fun _ _ _ => .nil

theorem append (hfirst : Leaves resources concern pageHeight intended first)
    (hsecond : Leaves resources concern pageHeight intended second) :
    Leaves resources concern pageHeight intended (first ++ second) :=
  fun actual saved h => (hfirst actual saved h).append (hsecond actual saved h)

theorem mono {other : Concern α} (h : Leaves resources concern pageHeight intended operators)
    (himp : ∀ operator actual, concern.holds operator actual → other.holds operator actual) :
    Leaves resources other pageHeight intended operators :=
  fun actual saved hbefore => (h actual saved hbefore).mono himp

theorem of_not_changesState (hkeeps : ∀ operator ∈ operators, operator.changesState = false)
    (hholds : ∀ operator ∈ operators, ∀ actual, intended.Realizes pageHeight actual →
      concern.holds operator actual) :
    Leaves resources concern pageHeight intended operators :=
  fun _ _ h => .of_not_changesState _ hkeeps fun operator hmem => hholds operator hmem _ h

end Leaves

namespace Adjusts

theorem nil : Adjusts resources concern pageHeight before [] before :=
  fun actual _ h => ⟨actual, .nil, h⟩

theorem append (hfirst : Adjusts resources concern pageHeight before first middle)
    (hsecond : Adjusts resources concern pageHeight middle second after) :
    Adjusts resources concern pageHeight before (first ++ second) after := by
  intro actual saved h
  obtain ⟨next, hreads, hnext⟩ := hfirst actual saved h
  obtain ⟨last, hreads', hlast⟩ := hsecond next saved hnext
  exact ⟨last, hreads.append hreads', hlast⟩

theorem weaken {weaker : GraphicsState α} (h : Adjusts resources concern pageHeight before operators after)
    (himp : ∀ actual, after.Realizes pageHeight actual → weaker.Realizes pageHeight actual) :
    Adjusts resources concern pageHeight before operators weaker := by
  intro actual saved hbefore
  obtain ⟨next, hreads, hnext⟩ := h actual saved hbefore
  exact ⟨next, hreads, himp next hnext⟩

theorem mono {other : Concern α} (h : Adjusts resources concern pageHeight before operators after)
    (himp : ∀ operator actual, concern.holds operator actual → other.holds operator actual) :
    Adjusts resources other pageHeight before operators after := by
  intro actual saved hbefore
  obtain ⟨next, hreads, hnext⟩ := h actual saved hbefore
  exact ⟨next, hreads.mono himp, hnext⟩

theorem of_leaves (h : Leaves resources concern pageHeight before operators) :
    Adjusts resources concern pageHeight before operators before :=
  fun actual saved hbefore => ⟨actual, h actual saved hbefore, hbefore⟩

/-- Limits change neither the map nor what paint covers. -/
theorem limits (hlimits : ∀ operator ∈ operators, operator.isLimiting = true)
    (hholds : ∀ operator, operator.isLimiting = true → ∀ actual, before.Realizes pageHeight actual →
      concern.holds operator actual) :
    Adjusts resources concern pageHeight before operators before :=
  of_leaves (.of_not_changesState
    (fun operator hmem => Operator.changesState_of_isLimiting (hlimits operator hmem))
    fun operator hmem => hholds operator (hlimits operator hmem))

/-- A map is applied as it is meant, also where it is left out because it changes nothing. -/
theorem transform (before : GraphicsState α) (matrix : Matrix α) :
    Adjusts resources concern pageHeight before (matrix.operators pageHeight)
      { before with matrix := before.matrix.multiply matrix } := by
  intro actual saved h
  rw [Matrix.operators]
  split
  next hidentity =>
    refine ⟨actual, .nil, ⟨h.covers.fillAlpha, h.covers.strokeAlpha, h.covers.blendMode⟩, ?_⟩
    intro hexact
    rw [Matrix.eq_identity_of_isIdentity hidentity, Matrix.multiply_identity]
    exact h.matrix hexact
  next hmapped =>
    refine ⟨{ actual with matrix := actual.matrix.multiply (matrix.flip pageHeight) },
      .cons (concern.of_quiet _ rfl rfl) rfl .nil,
      ⟨h.covers.fillAlpha, h.covers.strokeAlpha, h.covers.blendMode⟩, ?_⟩
    intro hexact
    change actual.matrix.multiply _ = (before.matrix.multiply matrix).flip pageHeight
    rw [Matrix.flip_multiply, h.matrix hexact]

/-- Alphas and blend mode are set as they are meant, also where nothing is written because they are in force
    already. -/
theorem graphicsState [Scalar.Comparable α] (frame : Frame α) (matrix : Matrix α) (style : Style α)
    (fillAlpha strokeAlpha : α) (ledger : Ledger α)
    (hresources :
      (SvgPage.graphicsState frame style fillAlpha strokeAlpha ledger).2.resources.toList <+: resources) :
    Adjusts resources concern pageHeight { frame.graphics with matrix }
      (SvgPage.graphicsState frame style fillAlpha strokeAlpha ledger).1
      ⟨matrix, fillAlpha, strokeAlpha, frame.blend style.blendMode⟩ := by
  intro actual saved h
  rw [SvgPage.graphicsState] at hresources ⊢
  split at hresources
  next hsame =>
    simp only [Bool.and_eq_true, beq_iff_eq] at hsame
    obtain ⟨⟨hfill, hstroke⟩, hnormal⟩ := hsame
    simp only [hfill, hstroke, hnormal]
    exact ⟨actual, .nil,
      ⟨h.covers.fillAlpha.trans_beq hfill, h.covers.strokeAlpha.trans_beq hstroke, h.covers.blendMode⟩,
      h.matrix⟩
  next hother =>
    have hnumber := Resource.ofNumber?_of_isPrefix hresources
      (Resource.ofNumber?_numberAfter ledger.resources
        (.graphicsState fillAlpha strokeAlpha (frame.blend style.blendMode)))
    rw [if_neg hother]
    exact ⟨{ actual with fillAlpha, strokeAlpha, blendMode := frame.blend style.blendMode },
      .cons (concern.of_quiet _ rfl rfl) (Canvas.read_graphicsState _ hnumber) .nil,
      ⟨.refl _, .refl _, rfl⟩, h.matrix⟩

section Element

variable {frame : Frame α} {transform : Matrix α}
  (hlimits : ∀ operator ∈ operators, operator.isLimiting = true)
  (hholds : ∀ operator, operator.isLimiting = true →
    ∀ actual, (frame.mappedGraphics transform).Realizes pageHeight actual → concern.holds operator actual)

include hlimits hholds

/-- The map and the limits of an element. -/
theorem limited :
    Adjusts resources concern pageHeight frame.graphics (transform.operators pageHeight ++ operators)
      (frame.mappedGraphics transform) :=
  (Adjusts.transform frame.graphics transform).append (.limits hlimits hholds)

/-- The map, the limits, the alphas and the blend mode of an element. -/
theorem element [Scalar.Comparable α] (style : Style α) (fillAlpha strokeAlpha : α) (ledger : Ledger α)
    (hresources :
      (SvgPage.graphicsState frame style fillAlpha strokeAlpha ledger).2.resources.toList <+: resources) :
    Adjusts resources concern pageHeight frame.graphics
      (transform.operators pageHeight ++ operators ++
        (SvgPage.graphicsState frame style fillAlpha strokeAlpha ledger).1)
      (frame.elementGraphics transform style fillAlpha strokeAlpha) :=
  (limited hlimits hholds).append
    (.graphicsState frame (frame.ctm.multiply transform) style fillAlpha strokeAlpha ledger hresources)

end Element

/-- A graphics state of its own for what is inside, whatever becomes of the graphics state there. -/
theorem leaves_saved (h : Adjusts resources concern pageHeight before first after)
    (hinner : ∀ actual saved, after.Realizes pageHeight actual →
      ∃ last, Reads resources concern.holds ⟨actual, saved⟩ second ⟨last, saved⟩) :
    Leaves resources concern pageHeight before ([.save] ++ first ++ second ++ [.restore]) := by
  intro actual saved hbefore
  obtain ⟨next, hreads, hnext⟩ := h actual (actual :: saved) hbefore
  obtain ⟨last, hlast⟩ := hinner next (actual :: saved) hnext
  have hall := Reads.saved (concern.of_quiet _ rfl rfl) (concern.of_quiet _ rfl rfl) (hreads.append hlast)
  simpa only [List.cons_append, List.nil_append, List.append_assoc] using hall

theorem leaves_saved_of_leaves (h : Adjusts resources concern pageHeight before first after)
    (hinner : Leaves resources concern pageHeight after second) :
    Leaves resources concern pageHeight before ([.save] ++ first ++ second ++ [.restore]) :=
  h.leaves_saved fun actual saved hafter => ⟨actual, hinner actual saved hafter⟩

end Adjusts

end Fragments

end SvgPage
