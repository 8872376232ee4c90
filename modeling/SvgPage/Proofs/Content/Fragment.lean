import SvgPage.Content.Outline
import SvgPage.Content.TextRun
import SvgPage.Proofs.Content.Stream

namespace SvgPage

variable {α : Type}

/-- Operators that come to nothing for what follows: wherever they stand between two objects of the page,
    the graphics state after them is the one before them. -/
structure Block (operators : List (Operator α)) : Prop where
  readAll : ∀ clips saved,
    (ContentState.between clips saved).readAll operators = some (.between clips saved)

/-- Operators that at most clip what follows. -/
structure Clipping (operators : List (Operator α)) : Prop where
  readAll : ∀ clips saved, ∃ more,
    (ContentState.between clips saved).readAll operators = some (.between (more ++ clips) saved)

/-- Operators that save the graphics state, and then at most clip what follows. -/
structure Prologue (operators : List (Operator α)) : Prop where
  readAll : ∀ clips saved, ∃ more,
    (ContentState.between clips saved).readAll operators = some (.between (more ++ clips) (clips :: saved))

namespace Block

theorem nil : Block ([] : List (Operator α)) := ⟨fun _ _ => rfl⟩

theorem append {first second : List (Operator α)} (hfirst : Block first) (hsecond : Block second) :
    Block (first ++ second) := by
  constructor
  intro clips saved
  rw [ContentState.readAll_append_of_eq (hfirst.readAll clips saved)]
  exact hsecond.readAll clips saved

theorem clipping {operators : List (Operator α)} (h : Block operators) : Clipping operators :=
  ⟨fun clips saved => ⟨[], h.readAll clips saved⟩⟩

/-- A block is over before the graphics state around it is given back. -/
theorem readAll_restore {operators : List (Operator α)} (h : Block operators)
    (clips outer : List (List (Operator α))) (saved : List (List (List (Operator α)))) :
    (ContentState.between clips (outer :: saved)).readAll (operators ++ [.restore]) =
      some (.between outer saved) := by
  rw [ContentState.readAll_append_of_eq (h.readAll clips (outer :: saved))]
  rfl

end Block

namespace Clipping

theorem append {first second : List (Operator α)} (hfirst : Clipping first) (hsecond : Clipping second) :
    Clipping (first ++ second) := by
  constructor
  intro clips saved
  obtain ⟨inner, hinner⟩ := hfirst.readAll clips saved
  obtain ⟨more, hmore⟩ := hsecond.readAll (inner ++ clips) saved
  refine ⟨more ++ inner, ?_⟩
  rw [ContentState.readAll_append_of_eq hinner, hmore, List.append_assoc]

theorem prologue {operators : List (Operator α)} (h : Clipping operators) : Prologue (.save :: operators) :=
  ⟨fun clips saved => h.readAll clips (clips :: saved)⟩

/-- What is saved is given back, whatever has clipped meanwhile. -/
theorem block {operators : List (Operator α)} (h : Clipping operators) :
    Block (.save :: (operators ++ [.restore])) := by
  constructor
  intro clips saved
  obtain ⟨more, hmore⟩ := h.readAll clips (clips :: saved)
  change (ContentState.between clips (clips :: saved)).readAll (operators ++ [.restore]) = _
  rw [ContentState.readAll_append_of_eq hmore]
  rfl

end Clipping

namespace Operator

/-- Whether an operator changes a graphics state without being part of a path or a text, or paints a
    resource. -/
def isPlain : Operator α → Bool
  | transform _ | fillColor _ | strokeColor _ | lineStyle _ | graphicsState _ | shading _ | image _ => true
  | _ => false

theorem block_of_isPlain {operators : List (Operator α)} (h : operators.all isPlain = true) :
    Block operators := by
  induction operators with
  | nil => exact .nil
  | cons operator rest ih =>
    rw [List.all_cons, Bool.and_eq_true] at h
    obtain ⟨hplain, hrest⟩ := h
    have hoperator : Block [operator] := by
      constructor
      intro clips saved
      cases operator with
      | transform _ | fillColor _ | strokeColor _ | lineStyle _ | graphicsState _ | shading _ | image _ => rfl
      | _ => cases hplain
    exact hoperator.append (ih hrest)

end Operator

namespace ContentState

theorem readAll_construction {path operators : List (Operator α)} (clips : List (List (Operator α)))
    (saved : List (List (List (Operator α)))) (h : operators.all Operator.isConstruction = true) :
    (ContentState.mk clips saved path false).readAll operators = some ⟨clips, saved, path ++ operators, false⟩ := by
  induction operators generalizing path with
  | nil => rw [List.append_nil, readAll]
  | cons operator rest ih =>
    rw [List.all_cons, Bool.and_eq_true] at h
    obtain ⟨hoperator, hrest⟩ := h
    have hread : (ContentState.mk clips saved path false).read operator =
        some ⟨clips, saved, path ++ [operator], false⟩ := by
      cases operator with
      | moveTo _ | lineTo _ | curveTo _ | closePath | rect _ => rfl
      | _ => cases hoperator
    rw [readAll, hread, Option.bind_some, ih hrest, List.append_assoc]
    rfl

/-- A path is read up to the operator that ends it. -/
theorem readAll_path {outline : List (Operator α)} (h : outline.all Operator.isConstruction = true)
    (operator : PaintOperator) (clips : List (List (Operator α))) (saved : List (List (List (Operator α)))) :
    (between clips saved).readAll (outline ++ [.paint operator]) =
      some (.between (if operator.clips then outline :: clips else clips) saved) := by
  have houtline : (between clips saved).readAll outline = some ⟨clips, saved, outline, false⟩ :=
    readAll_construction clips saved h
  rw [readAll_append_of_eq houtline]
  rfl

end ContentState

section Path

variable {outline : List (Operator α)}

theorem clipping_path (h : outline.all Operator.isConstruction = true) (operator : PaintOperator) :
    Clipping (outline ++ [.paint operator]) := by
  constructor
  intro clips saved
  rw [ContentState.readAll_path h]
  split
  · exact ⟨[outline], rfl⟩
  · exact ⟨[], rfl⟩

theorem block_path (h : outline.all Operator.isConstruction = true) {operator : PaintOperator}
    (hoperator : operator.clips = false) : Block (outline ++ [.paint operator]) := by
  constructor
  intro clips saved
  rw [ContentState.readAll_path h, hoperator]
  rfl

end Path

variable [Scalar α]

theorem Segment.operators_isConstruction (toPage : Point α → Point α) (segment : Segment α) :
    (segment.operators toPage).all Operator.isConstruction = true := by
  cases segment with
  | arc center target =>
    rw [Segment.operators, List.all_map]
    exact List.all_eq_true.2 fun _ _ => rfl
  | _ => rfl

/-- A path is written with nothing but operators that build it. -/
theorem Path.operators_isConstruction (path : Path α) (pageHeight : α) (matrix : Matrix α) :
    (path.operators pageHeight matrix).all Operator.isConstruction = true := by
  rw [Path.operators, List.all_flatMap]
  exact List.all_eq_true.2 fun segment _ => segment.operators_isConstruction _

/-- A run of text is a text object of its own. -/
theorem TextRun.block_operators (run : TextRun α) : Block run.operators := ⟨fun _ _ => rfl⟩

end SvgPage
