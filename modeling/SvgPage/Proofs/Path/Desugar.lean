import Mathlib.Data.List.Basic
import SvgPage.Proofs.Numeric.SignedZero
import SvgPage.Proofs.Path.Groups

namespace SvgPage

variable {α : Type}

/-- A group of path data that says by itself where everything is. -/
inductive PlainStep (α : Type) where
  | move (target : Point α)
  | line (target : Point α)
  | cubic (first second target : Point α)
  | quadratic (control target : Point α)
  | arc (rx ry rotation large sweep : α) (target : Point α)
  | close
deriving DecidableEq, Repr

/-- The absolute command with such a group alone. -/
def PlainStep.command : PlainStep α → PathCommand α
  | move target => ⟨.move, false, [target.x, target.y]⟩
  | line target => ⟨.line, false, [target.x, target.y]⟩
  | cubic first second target =>
    ⟨.cubic, false, [first.x, first.y, second.x, second.y, target.x, target.y]⟩
  | quadratic control target => ⟨.quadratic, false, [control.x, control.y, target.x, target.y]⟩
  | arc rx ry rotation large sweep target =>
    ⟨.arc, false, [rx, ry, rotation, large, sweep, target.x, target.y]⟩
  | close => ⟨.close, false, []⟩

/-- What the groups of path data leave for those after them: the current point, where the subpath began, and the
    control point of the last curve. -/
structure Cursor (α : Type) where
  position : Point α
  start : Point α
  control : LastControl α
deriving DecidableEq, Repr

namespace Cursor

/-- What is left after a group. -/
def follow (cursor : Cursor α) : PlainStep α → Cursor α
  | .move target => ⟨target, target, .none⟩
  | .line target => ⟨target, cursor.start, .none⟩
  | .cubic _ second target => ⟨target, cursor.start, .cubic second⟩
  | .quadratic control target => ⟨target, cursor.start, .quadratic control⟩
  | .arc _ _ _ _ _ target => ⟨target, cursor.start, .none⟩
  | .close => ⟨cursor.start, cursor.start, .none⟩

variable [Scalar α]

def initial : Cursor α := ⟨⟨0, 0⟩, ⟨0, 0⟩, .none⟩

/-- The point that coordinates denote. -/
def rebase (cursor : Cursor α) (relative : Bool) (p : Point α) : Point α :=
  if relative then ⟨cursor.position.x + p.x, cursor.position.y + p.y⟩ else p

/-- The reflection of a control point in the current point. -/
def reflect (cursor : Cursor α) (control : Point α) : Point α :=
  ⟨2 * cursor.position.x - control.x, 2 * cursor.position.y - control.y⟩

/-- The first control point of a smooth cubic curve. -/
def smoothCubic (cursor : Cursor α) : Point α :=
  match cursor.control with
  | .cubic control => cursor.reflect control
  | _ => cursor.position

/-- The control point of a smooth quadratic curve. -/
def smoothQuadratic (cursor : Cursor α) : Point α :=
  match cursor.control with
  | .quadratic control => cursor.reflect control
  | _ => cursor.position

/-- What a command with one group means. There is no meaning to another count of numbers. -/
def plain? (cursor : Cursor α) (command : PathCommand α) : Option (PlainStep α) :=
  let point (x y : α) : Point α := cursor.rebase command.relative ⟨x, y⟩
  match command.kind, command.parameters with
  | .move, [x, y] => some (.move (point x y))
  | .line, [x, y] => some (.line (point x y))
  | .horizontal, [x] => some (.line ⟨(point x 0).x, cursor.position.y⟩)
  | .vertical, [y] => some (.line ⟨cursor.position.x, (point 0 y).y⟩)
  | .cubic, [x1, y1, x2, y2, x, y] => some (.cubic (point x1 y1) (point x2 y2) (point x y))
  | .smoothCubic, [x2, y2, x, y] => some (.cubic cursor.smoothCubic (point x2 y2) (point x y))
  | .quadratic, [x1, y1, x, y] => some (.quadratic (point x1 y1) (point x y))
  | .smoothQuadratic, [x, y] => some (.quadratic cursor.smoothQuadratic (point x y))
  | .arc, [rx, ry, rotation, large, sweep, x, y] => some (.arc rx ry rotation large sweep (point x y))
  | .close, _ => some .close
  | _, _ => none

/-- What commands with one group each mean, one after another. -/
def plainSteps (cursor : Cursor α) : List (PathCommand α) → List (PlainStep α)
  | [] => []
  | command :: rest =>
    match cursor.plain? command with
    | some step => step :: plainSteps (cursor.follow step) rest
    | none => plainSteps cursor rest

end Cursor

/-- The same path data with one absolute command for each complete group, in which nothing is left implicit. -/
def PathCommand.desugar [Scalar α] (commands : List (PathCommand α)) : List (PathCommand α) :=
  (Cursor.initial.plainSteps (commands.flatMap split)).map PlainStep.command

namespace Cursor

variable [Scalar α]

/-- A complete group always has a meaning. -/
theorem exists_plain (cursor : Cursor α) {command : PathCommand α} (h : command.IsSingle) :
    ∃ step, cursor.plain? command = some step := by
  obtain ⟨kind, relative, numbers⟩ := command
  cases kind with
  | close => exact ⟨_, rfl⟩
  | horizontal | vertical => match numbers, h with | [_], _ => exact ⟨_, rfl⟩
  | move | line | smoothQuadratic => match numbers, h with | [_, _], _ => exact ⟨_, rfl⟩
  | smoothCubic | quadratic => match numbers, h with | [_, _, _, _], _ => exact ⟨_, rfl⟩
  | cubic => match numbers, h with | [_, _, _, _, _, _], _ => exact ⟨_, rfl⟩
  | arc => match numbers, h with | [_, _, _, _, _, _, _], _ => exact ⟨_, rfl⟩

theorem plainSteps_cons {cursor : Cursor α} {command : PathCommand α} {step : PlainStep α}
    (h : cursor.plain? command = some step) (rest : List (PathCommand α)) :
    cursor.plainSteps (command :: rest) = step :: (cursor.follow step).plainSteps rest := by
  rw [plainSteps, h]

theorem length_plainSteps (cursor : Cursor α) {singles : List (PathCommand α)}
    (hsingle : ∀ single ∈ singles, single.IsSingle) : (cursor.plainSteps singles).length = singles.length := by
  induction singles generalizing cursor with
  | nil => rfl
  | cons single rest ih =>
    obtain ⟨step, hstep⟩ := cursor.exists_plain (hsingle single List.mem_cons_self)
    rw [plainSteps_cons hstep, List.length_cons, List.length_cons, ih _ fun other hmem => hsingle other (.tail _ hmem)]

end Cursor

variable [Scalar α]

/-- A point as it is when it is counted from zero. -/
def Point.fromZero (p : Point α) : Point α := ⟨0 + p.x, 0 + p.y⟩

def LastControl.fromZero : LastControl α → LastControl α
  | none => none
  | cubic point => cubic point.fromZero
  | quadratic point => quadratic point.fromZero

/-- Whether a pen is where a cursor is, all points of it being counted from zero. -/
structure Pen.Follows (pen : Pen α) (cursor : Cursor α) : Prop where
  position : pen.position = cursor.position.fromZero
  start : pen.start = cursor.start.fromZero
  control : pen.control = cursor.control.fromZero

namespace Pen

/-- Draws a group that says by itself where everything is. -/
def drawPlain (pen : Pen α) : PlainStep α → Pen α
  | .move target => pen.moveTo target.fromZero
  | .line target => pen.lineTo target.fromZero
  | .cubic first second target => pen.cubicTo first.fromZero second.fromZero target.fromZero
  | .quadratic control target => pen.quadraticTo control.fromZero target.fromZero
  | .arc rx ry rotation large sweep target =>
    pen.arcTo 0 rx ry rotation (large != 0) (sweep != 0) target.fromZero
  | .close => pen.close

/-- A pen that draws a group stays where the cursor is. -/
theorem Follows.drawPlain {pen : Pen α} {cursor : Cursor α} (h : pen.Follows cursor) (step : PlainStep α) :
    (pen.drawPlain step).Follows (cursor.follow step) := by
  cases step with
  | move => exact ⟨rfl, rfl, rfl⟩
  | close => exact ⟨h.start, h.start, rfl⟩
  | arc rx ry rotation large sweep target =>
    rw [Pen.drawPlain, arcTo]
    split
    · exact ⟨rfl, h.start, rfl⟩
    · exact ⟨rfl, h.start, rfl⟩
  | _ => exact ⟨rfl, h.start, rfl⟩

variable [Scalar.Rebasing α]

/-- Nothing is below zero so that it would count as zero. -/
theorem snap_zero (value : α) : (if Scalar.abs value < 0 then 0 else value) = value :=
  if_neg (Scalar.Rebasing.not_abs_lt_zero value)

theorem drawCommand_plain (pen : Pen α) (step : PlainStep α) :
    pen.drawCommand 0 step.command = pen.drawPlain step := by
  cases step with
  | close => rfl
  | _ =>
    simp only [drawCommand, PlainStep.command, PathStep.ofCommand, List.map_cons, List.map_nil, snap_zero]
    rfl

theorem Follows.initial : (Pen.initial : Pen α).Follows Cursor.initial := by
  have hzero : (⟨0, 0⟩ : Point α) = Point.fromZero ⟨0, 0⟩ := by
    rw [Point.fromZero, Scalar.Rebasing.zero_add_zero]
  exact ⟨hzero, hzero, rfl⟩

section Step

variable {pen : Pen α} {cursor : Cursor α}

theorem Follows.locate (h : pen.Follows cursor) (relative : Bool) (p : Point α) :
    pen.locate relative p = (cursor.rebase relative p).fromZero := by
  cases relative with
  | false => rfl
  | true =>
    change (⟨pen.position.x + p.x, pen.position.y + p.y⟩ : Point α) = _
    rw [h.position]
    exact congrArg₂ Point.mk (Scalar.Rebasing.zero_add_assoc _ _) (Scalar.Rebasing.zero_add_assoc _ _)

theorem Follows.reflect (h : pen.Follows cursor) (control : Point α) :
    pen.reflect control.fromZero = (cursor.reflect control).fromZero := by
  rw [Pen.reflect, h.position]
  exact congrArg₂ Point.mk (Scalar.Rebasing.zero_add_reflect _ _) (Scalar.Rebasing.zero_add_reflect _ _)

theorem Follows.draw_smoothCubic (h : pen.Follows cursor) (relative : Bool) (second target : Point α) :
    pen.draw 0 relative (.smoothCubic second target) =
      pen.cubicTo cursor.smoothCubic.fromZero (pen.locate relative second) (pen.locate relative target) := by
  rw [Pen.draw, h.control, Cursor.smoothCubic]
  cases cursor.control with
  | cubic control => rw [← h.reflect]; rfl
  | _ => rw [← h.position]; rfl

theorem Follows.draw_smoothQuadratic (h : pen.Follows cursor) (relative : Bool) (target : Point α) :
    pen.draw 0 relative (.smoothQuadratic target) =
      pen.quadraticTo cursor.smoothQuadratic.fromZero (pen.locate relative target) := by
  rw [Pen.draw, h.control, Cursor.smoothQuadratic]
  cases cursor.control with
  | quadratic control => rw [← h.reflect]; rfl
  | _ => rw [← h.position]; rfl

/-- A group is drawn as what it means where the pen is. -/
theorem Follows.drawCommand (h : pen.Follows cursor) {command : PathCommand α} {step : PlainStep α}
    (hplain : cursor.plain? command = some step) : pen.drawCommand 0 command = pen.drawPlain step := by
  obtain ⟨kind, relative, numbers⟩ := command
  unfold Cursor.plain? at hplain
  dsimp only at hplain
  split at hplain
  case h_11 => cases hplain
  all_goals
    cases hplain
    simp only [Pen.drawCommand, PathStep.ofCommand, PathStep.moves, PathStep.lines, PathStep.cubics,
      PathStep.smoothCubics, PathStep.quadratics, PathStep.smoothQuadratics, PathStep.arcs, List.map_cons, List.map_nil,
      snap_zero, List.foldl_cons, List.foldl_nil]
  case h_3 => rw [Pen.draw, h.locate, h.position]; rfl
  case h_4 => rw [Pen.draw, h.locate, h.position]; rfl
  case h_6 => rw [h.draw_smoothCubic, h.locate, h.locate]; rfl
  case h_8 => rw [h.draw_smoothQuadratic, h.locate]; rfl
  all_goals simp only [Pen.draw, Pen.drawPlain, h.locate]

/-- Groups one by one are drawn as what they mean, each after those before it. -/
theorem Follows.foldl (h : pen.Follows cursor) {singles : List (PathCommand α)}
    (hsingle : ∀ single ∈ singles, single.IsSingle) :
    singles.foldl (Pen.drawCommand 0) pen = (cursor.plainSteps singles).foldl Pen.drawPlain pen := by
  induction singles generalizing pen cursor with
  | nil => rfl
  | cons single rest ih =>
    obtain ⟨step, hstep⟩ := cursor.exists_plain (hsingle single List.mem_cons_self)
    rw [Cursor.plainSteps_cons hstep, List.foldl_cons, List.foldl_cons, h.drawCommand hstep]
    exact ih (h.drawPlain step) fun other hmem => hsingle other (.tail _ hmem)

end Step

end Pen

namespace PathCommand

variable (commands : List (PathCommand α))

theorem length_desugar : (desugar commands).length = (commands.flatMap split).length := by
  rw [desugar, List.length_map]
  exact Cursor.length_plainSteps _ fun _ => isSingle_of_mem_flatMap_split

variable [Scalar.Rebasing α]

theorem foldl_drawCommand :
    commands.foldl (Pen.drawCommand 0) Pen.initial =
      (Cursor.initial.plainSteps (commands.flatMap split)).foldl Pen.drawPlain Pen.initial := by
  rw [Pen.drawCommand_flatMap_split]
  exact Pen.Follows.initial.foldl fun _ => isSingle_of_mem_flatMap_split

theorem foldl_drawCommand_desugar :
    (desugar commands).foldl (Pen.drawCommand 0) Pen.initial =
      (Cursor.initial.plainSteps (commands.flatMap split)).foldl Pen.drawPlain Pen.initial := by
  rw [desugar, List.foldl_map]
  exact List.foldl_ext _ _ _ fun pen step _ => pen.drawCommand_plain step

end PathCommand

namespace Path

/-- Commands draw the same path when each complete group of them is told by a command of its own, absolutely and with
    nothing left implicit. When groups are merely told one by one, the path is the same whatever counts as zero. -/
theorem ofCommands_desugar [Scalar.Rebasing α] (commands : List (PathCommand α)) :
    (ofCommands 0 (PathCommand.desugar commands) = ofCommands 0 commands ∧
      (PathCommand.desugar commands).length = (commands.flatMap PathCommand.split).length ∧
      ∀ plain ∈ PathCommand.desugar commands, plain.relative = false ∧ plain.IsSingle ∧
        plain.kind ∈ [.move, .line, .cubic, .quadratic, .arc, .close]) ∧
    ∀ (minLength : α) (before : List (PathCommand α)) (command : PathCommand α) (after : List (PathCommand α)),
      ofCommands minLength (before ++ command.split ++ after) = ofCommands minLength (before ++ command :: after) := by
  refine ⟨⟨?_, PathCommand.length_desugar commands, fun plain hplain => ?_⟩, fun minLength before command after => ?_⟩
  · rw [ofCommands, ofCommands, PathCommand.foldl_drawCommand_desugar, PathCommand.foldl_drawCommand]
  · obtain ⟨step, -, rfl⟩ := List.mem_map.1 hplain
    cases step with
    | _ => exact ⟨rfl, rfl, by simp [PlainStep.command]⟩
  · simp only [ofCommands, List.foldl_append, List.foldl_cons, Pen.drawCommand_split]

/-- A moveto with a further pair, a horizontal line and a smooth curve in relative coordinates, in doubles. The last
    number makes no group. -/
theorem ofCommands_desugar_relative :
    let commands : List (PathCommand Float) :=
      [⟨.move, true, [1, 2, 3, 4]⟩, ⟨.horizontal, true, [5]⟩, ⟨.smoothCubic, true, [1, 1, 2, 2, 3]⟩]
    PathCommand.desugar commands =
        [⟨.move, false, [1, 2]⟩, ⟨.line, false, [4, 6]⟩, ⟨.line, false, [9, 6]⟩,
          ⟨.cubic, false, [9, 6, 10, 7, 11, 8]⟩] ∧
      ofCommands 0 (PathCommand.desugar commands) = ofCommands 0 commands :=
  ⟨by decide +kernel, (ofCommands_desugar _).1.1⟩

end Path

end SvgPage
