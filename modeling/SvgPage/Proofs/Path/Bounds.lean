import Mathlib
import SvgPage.Proofs.Numeric.Measured
import SvgPage.Proofs.Path.Desugar

namespace SvgPage

variable {α : Type}

/-- A piece of a drawing: a straight line, or a curve with its own control points. -/
inductive Stroke (α : Type) where
  | line (source target : Point α)
  | quadratic (source control target : Point α)
  | cubic (source first second target : Point α)
deriving DecidableEq, Repr

/-- What a group of path data draws from where the cursor is. Arcs are left out. -/
def PlainStep.stroke? (cursor : Cursor α) : PlainStep α → Option (Stroke α)
  | .line target => some (.line cursor.position target)
  | .quadratic control target => some (.quadratic cursor.position control target)
  | .cubic first second target => some (.cubic cursor.position first second target)
  | .close => some (.line cursor.position cursor.start)
  | _ => none

/-- What groups draw, one after another. -/
def Cursor.strokes (cursor : Cursor α) : List (PlainStep α) → List (Stroke α)
  | [] => []
  | step :: rest => (step.stroke? cursor).toList ++ (cursor.follow step).strokes rest

/-- What segments draw from where they are and where the subpath began. Arcs are left out. -/
def Segment.strokes (position start : Point α) : List (Segment α) → List (Stroke α)
  | [] => []
  | .move target :: rest => strokes target target rest
  | .line target :: rest => .line position target :: strokes target start rest
  | .curve ⟨first, second, target⟩ :: rest =>
    .cubic position first second target :: strokes target start rest
  | .arc _ target :: rest => strokes target start rest
  | .close :: rest => .line position start :: strokes start start rest

variable [Scalar α]

/-- A command with numbers below `minLength` taken as zero. -/
def PathCommand.snap (minLength : α) (command : PathCommand α) : PathCommand α :=
  { command with
    parameters := command.parameters.map fun value => if Scalar.abs value < minLength then 0 else value }

/-- What the groups of commands mean, numbers below `minLength` being taken as zero. -/
def PathCommand.steps (minLength : α) (commands : List (PathCommand α)) : List (PlainStep α) :=
  Cursor.initial.plainSteps ((commands.flatMap split).map (snap minLength))

/-- What commands draw. -/
def PathCommand.strokes (minLength : α) (commands : List (PathCommand α)) : List (Stroke α) :=
  Cursor.initial.strokes (steps minLength commands)

section Arcs

theorem Cursor.ne_arc_of_plain {cursor : Cursor α} {command : PathCommand α} {step : PlainStep α}
    (h : cursor.plain? command = some step) (harc : command.kind ≠ .arc) : step.command.kind ≠ .arc := by
  obtain ⟨kind, relative, numbers⟩ := command
  unfold plain? at h
  dsimp only at h
  split at h
  case h_9 => exact absurd rfl harc
  all_goals
    cases h
    try rintro ⟨⟩

theorem Cursor.ne_arc_of_mem_plainSteps {cursor : Cursor α} {singles : List (PathCommand α)}
    (harc : ∀ single ∈ singles, single.kind ≠ .arc) : ∀ step ∈ cursor.plainSteps singles, step.command.kind ≠ .arc := by
  induction singles generalizing cursor with
  | nil => exact fun _ hnone => by cases hnone
  | cons single rest ih =>
    have hrest := fun other hmem => harc other (.tail _ hmem)
    rw [plainSteps]
    split
    next step hstep =>
      exact List.forall_mem_cons.2 ⟨ne_arc_of_plain hstep (harc single List.mem_cons_self), ih hrest⟩
    · exact ih hrest

end Arcs

namespace PathCommand

variable (minLength : α)

theorem isSingle_snap {single : PathCommand α} (h : single.IsSingle) : (single.snap minLength).IsSingle := by
  rw [IsSingle, snap, List.length_map]
  exact h

theorem ne_arc_of_mem_steps {commands : List (PathCommand α)} (harc : ∀ command ∈ commands, command.kind ≠ .arc) :
    ∀ step ∈ steps minLength commands, step.command.kind ≠ .arc := by
  refine Cursor.ne_arc_of_mem_plainSteps fun snapped hmem => ?_
  obtain ⟨single, hsingle, rfl⟩ := List.mem_map.1 hmem
  have hkind : single.kind ≠ .arc := ne_arc_of_mem_flatMap_split harc hsingle
  exact hkind

theorem steps_move (relative : Bool) (x y : α) (more : List α) (rest : List (PathCommand α)) :
    ∃ target tail, steps minLength (⟨.move, relative, x :: y :: more⟩ :: rest) = .move target :: tail := by
  have hgroups : completeGroups 2 (x :: y :: more) = [x, y] :: completeGroups 2 more :=
    completeGroups_append Nat.two_pos (rfl : [x, y].length = 2)
  have hsplit : split ⟨.move, relative, x :: y :: more⟩ =
      ⟨.move, relative, [x, y]⟩ :: (completeGroups 2 more).map fun group => ⟨.line, relative, group⟩ :=
    split_of_cons (by decide) relative hgroups
  rw [steps, List.flatMap_cons, hsplit, List.cons_append, List.map_cons]
  exact ⟨_, _, Cursor.plainSteps_cons rfl _⟩

end PathCommand

section Plane

variable [Scalar.Measured α]

/-- A point of the plane. -/
def Point.toReal (p : Point α) : ℝ × ℝ := (Scalar.Measured.toReal p.x, Scalar.Measured.toReal p.y)

/-- The points within a box. -/
def BoundingBox.region : BoundingBox α → Set (ℝ × ℝ)
  | .empty => ∅
  | .spanning minX minY maxX maxY => Set.Icc (Point.toReal ⟨minX, minY⟩) (Point.toReal ⟨maxX, maxY⟩)

/-- The points of a stroke. Its parameter runs from zero to one. -/
def Stroke.trace : Stroke α → ℝ → ℝ × ℝ
  | .line source target, t => (1 - t) • source.toReal + t • target.toReal
  | .quadratic source control target, t =>
    (1 - t) ^ 2 • source.toReal + (2 * (1 - t) * t) • control.toReal + t ^ 2 • target.toReal
  | .cubic source first second target, t =>
    (1 - t) ^ 3 • source.toReal + (3 * (1 - t) ^ 2 * t) • first.toReal +
      (3 * (1 - t) * t ^ 2) • second.toReal + t ^ 3 • target.toReal

theorem Point.fromZero_eq (p : Point α) : p.fromZero = p := by
  rw [Point.fromZero, Scalar.Measured.fromZero_eq, Scalar.Measured.fromZero_eq]

theorem Point.toReal_elevate (stop control : Point α) :
    (Pen.elevate stop control).toReal = stop.toReal + (2 / 3 : ℝ) • (control.toReal - stop.toReal) := by
  have hratio : Scalar.Measured.toReal (2 / 3 : α) = 2 / 3 := by
    have htwo : Scalar.Measured.toReal (2 : α) = 2 := Scalar.Measured.toReal_ofNat 2
    have hthree : Scalar.Measured.toReal (3 : α) = 3 := Scalar.Measured.toReal_ofNat 3
    rw [Scalar.Measured.toReal_div _ _ (by rw [hthree]; norm_num), htwo, hthree]
  simp [Point.toReal, Pen.elevate, hratio]

namespace Stroke

/-- A quadratic curve and the cubic one that is drawn for it have the same points. -/
theorem trace_elevate (source control target : Point α) :
    (cubic source (Pen.elevate source control) (Pen.elevate target control) target).trace =
      (quadratic source control target).trace := by
  funext t
  simp only [trace, Point.toReal_elevate]
  module

variable {s : Set (ℝ × ℝ)} {source first second target : Point α} {t : ℝ}

theorem trace_line_mem (hs : Convex ℝ s) (hsource : source.toReal ∈ s) (htarget : target.toReal ∈ s)
    (ht : t ∈ Set.Icc (0 : ℝ) 1) : (line source target).trace t ∈ s :=
  hs hsource htarget (sub_nonneg.2 ht.2) ht.1 (sub_add_cancel _ _)

/-- The points of a curve are reached from its control points in three rounds, in each of which points that follow one
    another are joined by a line. -/
theorem trace_cubic_mem (hs : Convex ℝ s) (hsource : source.toReal ∈ s) (hfirst : first.toReal ∈ s)
    (hsecond : second.toReal ∈ s) (htarget : target.toReal ∈ s) (ht : t ∈ Set.Icc (0 : ℝ) 1) :
    (cubic source first second target).trace t ∈ s := by
  have hjoin {p q : ℝ × ℝ} (hp : p ∈ s) (hq : q ∈ s) : (1 - t) • p + t • q ∈ s :=
    hs hp hq (sub_nonneg.2 ht.2) ht.1 (sub_add_cancel _ _)
  have hrounds := hjoin (hjoin (hjoin hsource hfirst) (hjoin hfirst hsecond))
    (hjoin (hjoin hfirst hsecond) (hjoin hsecond htarget))
  convert hrounds using 1
  rw [trace]
  module

end Stroke

namespace BoundingBox

theorem convex_region (box : BoundingBox α) : Convex ℝ box.region := by
  cases box with
  | empty => exact convex_empty
  | spanning => exact convex_Icc _ _

theorem subset_insert (box : BoundingBox α) (p : Point α) : box.region ⊆ (box.insert p).region := by
  cases box with
  | empty => exact Set.empty_subset _
  | spanning minX minY maxX maxY =>
    refine Set.Icc_subset_Icc ?_ ?_
    · simp [Point.toReal]
    · simp [Point.toReal]

theorem mem_insert (box : BoundingBox α) (p : Point α) : p.toReal ∈ (box.insert p).region := by
  cases box with
  | empty => exact Set.left_mem_Icc.2 le_rfl
  | spanning minX minY maxX maxY =>
    refine Set.mem_Icc.2 ⟨?_, ?_⟩
    · simp [Point.toReal]
    · simp [Point.toReal]

end BoundingBox

namespace Pen

/-- Whether a pen and the beginning of the subpath are in the box around what has been drawn. -/
structure Inside (pen : Pen α) : Prop where
  position : pen.position.toReal ∈ pen.boundingBox.region
  start : pen.start.toReal ∈ pen.boundingBox.region

theorem inside_moveTo (pen : Pen α) (target : Point α) : (pen.moveTo target).Inside :=
  ⟨pen.boundingBox.mem_insert target, pen.boundingBox.mem_insert target⟩

variable {pen : Pen α}

theorem Inside.lineTo (h : pen.Inside) (target : Point α) : (pen.lineTo target).Inside :=
  ⟨pen.boundingBox.mem_insert target, pen.boundingBox.subset_insert target h.start⟩

theorem Inside.close (h : pen.Inside) : pen.close.Inside := ⟨h.start, h.start⟩

theorem subset_curveTo (control : LastControl α) (first second target : Point α) :
    pen.boundingBox.region ⊆ (pen.curveTo control first second target).boundingBox.region :=
  ((BoundingBox.subset_insert _ first).trans (BoundingBox.subset_insert _ second)).trans
    (BoundingBox.subset_insert _ target)

theorem Inside.curveTo (h : pen.Inside) (control : LastControl α) (first second target : Point α) :
    (pen.curveTo control first second target).Inside :=
  ⟨BoundingBox.mem_insert _ target, subset_curveTo control first second target h.start⟩

theorem Inside.trace_curveTo (h : pen.Inside) (control : LastControl α) (first second target : Point α) {t : ℝ}
    (ht : t ∈ Set.Icc (0 : ℝ) 1) :
    (Stroke.cubic pen.position first second target).trace t ∈
      (pen.curveTo control first second target).boundingBox.region :=
  Stroke.trace_cubic_mem (BoundingBox.convex_region _) (subset_curveTo control first second target h.position)
    (BoundingBox.subset_insert _ target (BoundingBox.subset_insert _ second (BoundingBox.mem_insert _ first)))
    (BoundingBox.subset_insert _ target (BoundingBox.mem_insert _ second)) (BoundingBox.mem_insert _ target) ht

/-- What a group draws is in the box, which holds what was in it before. -/
theorem Inside.drawPlain {cursor : Cursor α} (h : pen.Inside) (hfollows : pen.Follows cursor) {step : PlainStep α}
    (harc : step.command.kind ≠ .arc) :
    (pen.drawPlain step).Inside ∧ pen.boundingBox.region ⊆ (pen.drawPlain step).boundingBox.region ∧
      ∀ stroke ∈ step.stroke? cursor, ∀ t ∈ Set.Icc (0 : ℝ) 1,
        stroke.trace t ∈ (pen.drawPlain step).boundingBox.region := by
  have hposition : pen.position = cursor.position := hfollows.position.trans (Point.fromZero_eq _)
  have hstart : pen.start = cursor.start := hfollows.start.trans (Point.fromZero_eq _)
  cases step with
  | arc => exact absurd rfl harc
  | move target => exact ⟨pen.inside_moveTo _, BoundingBox.subset_insert _ _, fun _ hnone => by cases hnone⟩
  | line target =>
    refine ⟨h.lineTo _, BoundingBox.subset_insert _ _, ?_⟩
    rintro _ ⟨⟩ t ht
    rw [← hposition, Pen.drawPlain, Point.fromZero_eq]
    exact Stroke.trace_line_mem (BoundingBox.convex_region _) (BoundingBox.subset_insert _ _ h.position)
      (BoundingBox.mem_insert _ _) ht
  | cubic first second target =>
    refine ⟨h.curveTo _ _ _ _, subset_curveTo _ _ _ _, ?_⟩
    rintro _ ⟨⟩ t ht
    rw [← hposition, Pen.drawPlain, Point.fromZero_eq, Point.fromZero_eq, Point.fromZero_eq]
    exact h.trace_curveTo _ _ _ _ ht
  | quadratic control target =>
    refine ⟨h.curveTo _ _ _ _, subset_curveTo _ _ _ _, ?_⟩
    rintro _ ⟨⟩ t ht
    rw [← hposition, ← Stroke.trace_elevate, Pen.drawPlain, Point.fromZero_eq, Point.fromZero_eq]
    exact h.trace_curveTo _ _ _ _ ht
  | close =>
    refine ⟨h.close, subset_rfl, ?_⟩
    rintro _ ⟨⟩ t ht
    rw [← hposition, ← hstart]
    exact Stroke.trace_line_mem (BoundingBox.convex_region _) h.position h.start ht

/-- What groups draw is in the box around all of them. -/
theorem Inside.foldl {cursor : Cursor α} (h : pen.Inside) (hfollows : pen.Follows cursor) {steps : List (PlainStep α)}
    (harc : ∀ step ∈ steps, step.command.kind ≠ .arc) :
    pen.boundingBox.region ⊆ (steps.foldl Pen.drawPlain pen).boundingBox.region ∧
      ∀ stroke ∈ cursor.strokes steps, ∀ t ∈ Set.Icc (0 : ℝ) 1,
        stroke.trace t ∈ (steps.foldl Pen.drawPlain pen).boundingBox.region := by
  induction steps generalizing pen cursor with
  | nil => exact ⟨subset_rfl, fun _ hnone => by cases hnone⟩
  | cons step rest ih =>
    obtain ⟨hinside, hsubset, hstroke⟩ := h.drawPlain hfollows (harc step List.mem_cons_self)
    obtain ⟨hgrows, hstrokes⟩ := ih hinside (hfollows.drawPlain step) fun other hmem => harc other (.tail _ hmem)
    refine ⟨hsubset.trans hgrows, fun stroke hmem t ht => ?_⟩
    obtain hfirst | hlater := List.mem_append.1 hmem
    · exact hgrows (hstroke stroke (Option.mem_toList.1 hfirst) t ht)
    · exact hstrokes stroke hlater t ht

/-- The segment of a group draws what the group draws. -/
theorem Follows.strokes_drawPlain {cursor : Cursor α} (h : pen.Follows cursor) {step : PlainStep α}
    (harc : step.command.kind ≠ .arc) :
    ∃ segment, (pen.drawPlain step).segments = pen.segments.push segment ∧ ∀ rest,
      (Segment.strokes cursor.position cursor.start (segment :: rest)).map Stroke.trace =
        (step.stroke? cursor).toList.map Stroke.trace ++
          (Segment.strokes (cursor.follow step).position (cursor.follow step).start rest).map Stroke.trace := by
  have hposition : pen.position = cursor.position := h.position.trans (Point.fromZero_eq _)
  cases step with
  | arc => exact absurd rfl harc
  | quadratic control target =>
    refine ⟨_, rfl, fun rest => ?_⟩
    rw [Point.fromZero_eq, Point.fromZero_eq, hposition, Segment.strokes, List.map_cons, Stroke.trace_elevate]
    rfl
  | close => exact ⟨_, rfl, fun rest => rfl⟩
  | _ =>
    refine ⟨_, rfl, fun rest => ?_⟩
    simp only [Point.fromZero_eq]
    rfl

theorem Follows.strokes_foldl {cursor : Cursor α} (h : pen.Follows cursor) {steps : List (PlainStep α)}
    (harc : ∀ step ∈ steps, step.command.kind ≠ .arc) :
    ∃ added, (steps.foldl Pen.drawPlain pen).segments.toList = pen.segments.toList ++ added ∧
      (Segment.strokes cursor.position cursor.start added).map Stroke.trace =
        (cursor.strokes steps).map Stroke.trace := by
  induction steps generalizing pen cursor with
  | nil => exact ⟨[], (List.append_nil _).symm, rfl⟩
  | cons step rest ih =>
    obtain ⟨segment, hsegment, hstroke⟩ := h.strokes_drawPlain (harc step List.mem_cons_self)
    obtain ⟨added, hadded, hstrokes⟩ := ih (h.drawPlain step) fun other hmem => harc other (.tail _ hmem)
    refine ⟨segment :: added, ?_, ?_⟩
    · rw [List.foldl_cons, hadded, hsegment, Array.toList_push, List.append_assoc, List.singleton_append]
    · rw [hstroke, hstrokes, Cursor.strokes, List.map_append]

end Pen

namespace PathCommand

variable (minLength : α)

/-- It is all the same whether numbers are taken as zero in a command or when it is drawn. -/
theorem drawCommand_snap {single : PathCommand α} (h : single.IsSingle) (harc : single.kind ≠ .arc) (pen : Pen α) :
    pen.drawCommand minLength single = pen.drawCommand 0 (single.snap minLength) := by
  have hzero (numbers : List α) :
      numbers.map (fun value => if Scalar.abs value < 0 then 0 else value) = numbers := by
    simp only [Pen.snap_zero, List.map_id_fun', id_eq]
  -- The meaning of a command tells its forms apart. Of them, only an arc is drawn by what counts as zero.
  obtain ⟨step, hplain⟩ := Cursor.initial.exists_plain h
  obtain ⟨kind, relative, numbers⟩ := single
  unfold Cursor.plain? at hplain
  dsimp only at hplain
  split at hplain
  case h_9 => exact absurd rfl harc
  case h_11 => cases hplain
  all_goals
    simp only [Pen.drawCommand, PathStep.ofCommand, snap, hzero]
    rfl

theorem foldl_drawCommand_snap {singles : List (PathCommand α)} (hsingle : ∀ single ∈ singles, single.IsSingle)
    (harc : ∀ single ∈ singles, single.kind ≠ .arc) (pen : Pen α) :
    singles.foldl (Pen.drawCommand minLength) pen =
      (singles.map (snap minLength)).foldl (Pen.drawCommand 0) pen := by
  rw [List.foldl_map]
  exact List.foldl_ext _ _ _ fun pen single hmem => drawCommand_snap minLength (hsingle single hmem) (harc single hmem) pen

/-- Commands without arcs are drawn as what their groups mean. -/
theorem foldl_drawCommand_steps {commands : List (PathCommand α)} (harc : ∀ command ∈ commands, command.kind ≠ .arc) :
    commands.foldl (Pen.drawCommand minLength) Pen.initial =
      (steps minLength commands).foldl Pen.drawPlain Pen.initial := by
  have hsingle : ∀ single ∈ commands.flatMap split, single.IsSingle := fun _ => isSingle_of_mem_flatMap_split
  have hkinds : ∀ single ∈ commands.flatMap split, single.kind ≠ .arc := fun _ => ne_arc_of_mem_flatMap_split harc
  rw [Pen.drawCommand_flatMap_split, foldl_drawCommand_snap minLength hsingle hkinds]
  refine Pen.Follows.initial.foldl fun single hmem => ?_
  obtain ⟨whole, hwhole, rfl⟩ := List.mem_map.1 hmem
  exact isSingle_snap minLength (hsingle whole hwhole)

end PathCommand

namespace Path

/-- The segments of a path have the points of what the commands mean, though the quadratic curves among them have become
    cubic ones. -/
theorem strokes_ofCommands (minLength : α) {commands : List (PathCommand α)}
    (harc : ∀ command ∈ commands, command.kind ≠ .arc) :
    (Segment.strokes ⟨0, 0⟩ ⟨0, 0⟩ (ofCommands minLength commands).segments).map Stroke.trace =
      (PathCommand.strokes minLength commands).map Stroke.trace := by
  have hinitial : (Pen.initial : Pen α).Follows Cursor.initial := Pen.Follows.initial
  obtain ⟨added, hadded, hstrokes⟩ := hinitial.strokes_foldl (PathCommand.ne_arc_of_mem_steps minLength harc)
  have hsegments : (ofCommands minLength commands).segments = added := by
    rw [ofCommands, PathCommand.foldl_drawCommand_steps minLength harc, hadded]
    rfl
  rw [hsegments]
  exact hstrokes

/-- Path data without arcs that begins with a complete moveto is drawn within its box: every line, every curve and
    every line that closes a subpath, at all of its points. The segments of the path have the points of these
    strokes. -/
theorem trace_mem_boundingBox (minLength : α) {data : String} {relative : Bool} {numbers : List α}
    {rest : List (PathCommand α)} (hdata : PathCommand.tokenize data = ⟨.move, relative, numbers⟩ :: rest)
    (hmove : 2 ≤ numbers.length) (harc : ∀ command ∈ rest, command.kind ≠ .arc) :
    let path := interpret minLength data
    let strokes := PathCommand.strokes minLength (PathCommand.tokenize data)
    (Segment.strokes ⟨0, 0⟩ ⟨0, 0⟩ path.segments).map Stroke.trace = strokes.map Stroke.trace ∧
      ∀ stroke ∈ strokes, ∀ t ∈ Set.Icc (0 : ℝ) 1, stroke.trace t ∈ path.boundingBox.region := by
  intro path strokes
  have harcs : ∀ command ∈ (PathCommand.tokenize data : List (PathCommand α)), command.kind ≠ .arc := by
    rw [hdata]
    exact List.forall_mem_cons.2 ⟨CommandKind.noConfusion, harc⟩
  refine ⟨strokes_ofCommands minLength harcs, ?_⟩
  have hsteps := PathCommand.ne_arc_of_mem_steps minLength harcs
  have hpen := PathCommand.foldl_drawCommand_steps minLength harcs
  obtain ⟨x, y, more, rfl⟩ : ∃ x y more, numbers = x :: y :: more := by
    match numbers, hmove with
    | x :: y :: more, _ => exact ⟨x, y, more, rfl⟩
  obtain ⟨target, tail, hfirst⟩ := PathCommand.steps_move minLength relative x y more rest
  rw [← hdata] at hfirst
  rw [hfirst] at hpen hsteps
  have hfollows : (Pen.initial.moveTo target.fromZero : Pen α).Follows (Cursor.initial.follow (.move target)) :=
    Pen.Follows.initial.drawPlain (.move target)
  have hbox := (((Pen.initial : Pen α).inside_moveTo target.fromZero).foldl hfollows
    fun step hmem => hsteps step (.tail _ hmem)).2
  have hboundingBox : path.boundingBox = (tail.foldl Pen.drawPlain (Pen.initial.moveTo target.fromZero)).boundingBox :=
    congrArg Pen.boundingBox hpen
  have hstrokes : strokes = (Cursor.initial.follow (.move target)).strokes tail :=
    congrArg Cursor.initial.strokes hfirst
  rw [hboundingBox, hstrokes]
  exact hbox

/-- A quadratic curve that is closed by a line. Its control point is not in the box. -/
theorem trace_mem_boundingBox_quadratic :
    let data := "M 0 0 Q 3 6 6 0 Z"
    (interpret (1 / 100) data : Path Rat).boundingBox = .spanning 0 0 6 4 ∧
      ∀ t ∈ Set.Icc (0 : ℝ) 1, (Stroke.quadratic (α := Rat) ⟨0, 0⟩ ⟨3, 6⟩ ⟨6, 0⟩).trace t ∈
        (interpret (1 / 100) data : Path Rat).boundingBox.region := by
  have hdata : (PathCommand.tokenize "M 0 0 Q 3 6 6 0 Z" : List (PathCommand Rat)) =
      [⟨.move, false, [0, 0]⟩, ⟨.quadratic, false, [3, 6, 6, 0]⟩, ⟨.close, false, []⟩] := by
    decide +kernel
  refine ⟨by decide +kernel, ?_⟩
  refine (trace_mem_boundingBox (1 / 100) hdata (by decide) (by decide)).2 _ ?_
  rw [hdata]
  decide +kernel

end Path

end Plane

end SvgPage
