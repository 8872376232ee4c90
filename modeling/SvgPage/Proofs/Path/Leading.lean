import Mathlib.Data.Option.Basic
import SvgPage.Content.Outline
import SvgPage.Path.Pen
import SvgPage.Proofs.Exact

namespace SvgPage

variable {α : Type}

/-- Whether a segment begins a part of a path of its own. -/
def Segment.isMove : Segment α → Bool
  | move _ => true
  | _ => false

/-- Whether a group begins a part of a path of its own. -/
def PathStep.isMove : PathStep α → Bool
  | move _ => true
  | _ => false

/-- Whether an operator begins a part of a path of its own. -/
def Operator.isMove : Operator α → Bool
  | moveTo _ => true
  | _ => false

/-- Nothing of the path comes before a segment that begins a part of it. -/
def Path.StartsWithMove (path : Path α) : Prop := ∀ segment ∈ path.segments.head?, segment.isMove = true

variable [Scalar α]

/-- A path that begins so is also written so, wherever it is mapped to. -/
theorem Path.StartsWithMove.operators {path : Path α} (h : path.StartsWithMove) (pageHeight : α)
    (matrix : Matrix α) : ∀ operator ∈ (path.operators pageHeight matrix).head?, operator.isMove = true := by
  obtain ⟨segments, boundingBox⟩ := path
  cases segments with
  | nil =>
    intro operator hnone
    cases hnone
  | cons first rest =>
    have hfirst : first.isMove = true := h first rfl
    cases first with
    | move target =>
      intro operator hhead
      cases hhead
      rfl
    | _ => cases hfirst

namespace Pen

variable (minLength : α) (pen : Pen α)

/-- Whether an arc is left out: it has a radius, or spans a distance, below `minLength`. -/
def leavesOut (rx ry : α) (target : Point α) : Bool :=
  Scalar.abs rx < minLength || Scalar.abs ry < minLength ||
    (Scalar.abs (pen.position.x - target.x) < minLength && Scalar.abs (pen.position.y - target.y) < minLength)

/-- Whether a group is drawn. All of them are but some arcs. -/
def draws (relative : Bool) : PathStep α → Bool
  | .arc rx ry _ _ _ target => !pen.leavesOut minLength rx ry (pen.locate relative target)
  | _ => true

/-- The first of some groups that is drawn. Those before it do no more than to take the pen elsewhere. -/
def leading? (pen : Pen α) : List (Bool × PathStep α) → Option (PathStep α)
  | [] => none
  | (relative, step) :: rest =>
    if pen.draws minLength relative step then some step
    else leading? (pen.draw minLength relative step) rest

theorem segments_arcTo (rx ry rotation : α) (large sweep : Bool) (target : Point α) :
    (pen.arcTo minLength rx ry rotation large sweep target).segments =
      if pen.leavesOut minLength rx ry target then pen.segments
      else
        let arc : EndpointArc α :=
          ⟨pen.position.x, pen.position.y, rx, ry, rotation, large, sweep, target.x, target.y⟩
        pen.segments.push (.arc arc.toCenter target) :=
  apply_ite segments _ _ _

/-- A group adds a segment of its own sort if it is drawn, and else nothing. -/
theorem segments_draw (relative : Bool) (step : PathStep α) :
    (pen.draws minLength relative step = true ∧ ∃ segment, segment.isMove = step.isMove ∧
        (pen.draw minLength relative step).segments.toList = pen.segments.toList ++ [segment]) ∨
      (pen.draws minLength relative step = false ∧
        (pen.draw minLength relative step).segments = pen.segments) := by
  have hpush (segment : Segment α) :
      (pen.segments.push segment).toList = pen.segments.toList ++ [segment] := Array.toList_push
  cases step with
  | arc rx ry rotation large sweep target =>
    let located := pen.locate relative target
    have hdraws : pen.draws minLength relative (.arc rx ry rotation large sweep target) =
        !pen.leavesOut minLength rx ry located := rfl
    have hdrawn := pen.segments_arcTo minLength rx ry rotation large sweep located
    rw [hdraws]
    cases hleft : pen.leavesOut minLength rx ry located with
    | true =>
      rw [if_pos hleft] at hdrawn
      exact .inr ⟨rfl, hdrawn⟩
    | false =>
      rw [if_neg (Bool.eq_false_iff.1 hleft)] at hdrawn
      exact .inl ⟨rfl, .arc _ located, rfl, (congrArg Array.toList hdrawn).trans (hpush _)⟩
  | _ => exact .inl ⟨rfl, _, rfl, hpush _⟩

/-- What groups add to the segments begins with what the first of them that is drawn adds. -/
theorem segments_foldl (groups : List (Bool × PathStep α)) :
    ∃ added, (groups.foldl (fun pen group => pen.draw minLength group.1 group.2) pen).segments.toList =
        pen.segments.toList ++ added ∧
      added.head?.map Segment.isMove = (pen.leading? minLength groups).map PathStep.isMove := by
  induction groups generalizing pen with
  | nil => exact ⟨[], (List.append_nil _).symm, rfl⟩
  | cons group rest ih =>
    obtain ⟨relative, step⟩ := group
    obtain ⟨more, hmore, hnext⟩ := ih (pen.draw minLength relative step)
    rw [List.foldl_cons, leading?]
    obtain ⟨hdraws, segment, hsegment, hadded⟩ | ⟨hdraws, hsame⟩ := pen.segments_draw minLength relative step
    · refine ⟨segment :: more, ?_, ?_⟩
      · rw [hmore, hadded, List.append_assoc, List.singleton_append]
      · rw [if_pos hdraws, List.head?_cons, Option.map_some, Option.map_some, hsegment]
    · refine ⟨more, ?_, ?_⟩
      · rw [hmore, hsame]
      · rw [if_neg (Bool.eq_false_iff.1 hdraws), hnext]

end Pen

namespace Path

variable (minLength : α)

/-- The groups of path data in order, each with whether its coordinates start from the pen. -/
def groups (data : String) : List (Bool × PathStep α) :=
  (PathCommand.tokenize data).flatMap fun command =>
    (PathStep.ofCommand minLength command).map (command.relative, ·)

/-- The first group of path data that is drawn. -/
def leading? (data : String) : Option (PathStep α) := Pen.initial.leading? minLength (groups minLength data)

theorem interpret_segments (data : String) :
    (interpret minLength data).segments =
      ((groups minLength data).foldl (fun pen group => pen.draw minLength group.1 group.2)
        Pen.initial).segments.toList := by
  rw [groups, List.foldl_flatMap]
  simp only [List.foldl_map]
  rfl

/-- The path of path data has no segments or begins with a move just if no group of the data is drawn or the first
    one that is drawn is a move. Then the path is written so, wherever it is mapped to. -/
theorem startsWithMove_interpret (data : String) :
    ((interpret minLength data).StartsWithMove ↔ ∀ step ∈ leading? minLength data, step.isMove = true) ∧
      ((∀ step ∈ leading? minLength data, step.isMove = true) → ∀ pageHeight matrix,
        ∀ operator ∈ ((interpret minLength data).operators pageHeight matrix).head?, operator.isMove = true) := by
  obtain ⟨added, hadded, hfirst⟩ := (Pen.initial : Pen α).segments_foldl minLength (groups minLength data)
  have hsegments : (interpret minLength data).segments = added := by
    rw [interpret_segments, hadded]
    rfl
  have hiff : (interpret minLength data).StartsWithMove ↔ ∀ step ∈ leading? minLength data, step.isMove = true := by
    rw [StartsWithMove, hsegments, ← Option.forall_mem_map (p := (· = true)), hfirst]
    exact Option.forall_mem_map (p := (· = true))
  exact ⟨hiff, fun hleading => (hiff.2 hleading).operators⟩

/-- Path data that begins with a line makes a path that begins with one, and no operator in front of it begins a
    part of the path. -/
theorem startsWithMove_not_line :
    let path : Path Rat := interpret (1 / 100) "L 10 10"
    path.segments = [.line ⟨10, 10⟩] ∧ ¬path.StartsWithMove ∧
      path.operators 100 .identity = [.lineTo ⟨10, 90⟩] := by
  have hsegments : (interpret (1 / 100 : Rat) "L 10 10").segments = [.line ⟨10, 10⟩] := by
    decide +kernel
  refine ⟨hsegments, fun hmove => ?_, by decide +kernel⟩
  have hline := hmove (.line ⟨10, 10⟩) (by rw [hsegments]; rfl)
  cases hline

end Path

end SvgPage
