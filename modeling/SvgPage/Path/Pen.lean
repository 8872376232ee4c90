import SvgPage.Path.Command
import SvgPage.Path.Segment

namespace SvgPage

/-- One group of the parameters that a command takes at a time. -/
inductive PathStep (α : Type) where
  | move (target : Point α)
  | line (target : Point α)
  | horizontal (x : α)
  | vertical (y : α)
  | cubic (first second target : Point α)
  | smoothCubic (second target : Point α)
  | quadratic (control target : Point α)
  | smoothQuadratic (target : Point α)
  | arc (rx ry rotation : α) (large sweep : Bool) (target : Point α)
  | close
deriving DecidableEq, Repr

variable {α : Type} [Scalar α]

namespace PathStep

def lines : List α → List (PathStep α)
  | x :: y :: rest => line ⟨x, y⟩ :: lines rest
  | _ => []

/-- The pairs after the first one draw lines. -/
def moves : List α → List (PathStep α)
  | x :: y :: rest => move ⟨x, y⟩ :: lines rest
  | _ => []

def cubics : List α → List (PathStep α)
  | x1 :: y1 :: x2 :: y2 :: x :: y :: rest => cubic ⟨x1, y1⟩ ⟨x2, y2⟩ ⟨x, y⟩ :: cubics rest
  | _ => []

def smoothCubics : List α → List (PathStep α)
  | x2 :: y2 :: x :: y :: rest => smoothCubic ⟨x2, y2⟩ ⟨x, y⟩ :: smoothCubics rest
  | _ => []

def quadratics : List α → List (PathStep α)
  | x1 :: y1 :: x :: y :: rest => quadratic ⟨x1, y1⟩ ⟨x, y⟩ :: quadratics rest
  | _ => []

def smoothQuadratics : List α → List (PathStep α)
  | x :: y :: rest => smoothQuadratic ⟨x, y⟩ :: smoothQuadratics rest
  | _ => []

/-- Rotation and flags are no lengths, so `snap` leaves them alone. -/
def arcs (snap : α → α) : List α → List (PathStep α)
  | rx :: ry :: rotation :: large :: sweep :: x :: y :: rest =>
    arc (snap rx) (snap ry) rotation (large != 0) (sweep != 0) ⟨snap x, snap y⟩ :: arcs snap rest
  | _ => []

/-- The groups of a command, without an incomplete one at the end. Coordinates below `minLength` count
    as zero. -/
def ofCommand (minLength : α) (command : PathCommand α) : List (PathStep α) :=
  let snap (value : α) : α := if Scalar.abs value < minLength then 0 else value
  let snapped := command.parameters.map snap
  match command.kind with
  | .move => moves snapped
  | .line => lines snapped
  | .horizontal => snapped.map horizontal
  | .vertical => snapped.map vertical
  | .cubic => cubics snapped
  | .smoothCubic => smoothCubics snapped
  | .quadratic => quadratics snapped
  | .smoothQuadratic => smoothQuadratics snapped
  | .arc => arcs snap command.parameters
  | .close => [close]

end PathStep

/-- The control point that the next smooth curve of the same degree continues. -/
inductive LastControl (α : Type) where
  | none
  | cubic (point : Point α)
  | quadratic (point : Point α)
deriving DecidableEq, Repr

/-- A drawing pen: where it is, where the subpath began, the control point of the last curve, the box
    around what it has drawn, and what it has drawn. -/
structure Pen (α : Type) where
  position : Point α
  start : Point α
  control : LastControl α
  boundingBox : BoundingBox α
  segments : Array (Segment α)

namespace Pen

def initial : Pen α := ⟨⟨0, 0⟩, ⟨0, 0⟩, .none, .empty, #[]⟩

/-- The point that coordinates denote; relative ones start from the pen. -/
def locate (pen : Pen α) (relative : Bool) (p : Point α) : Point α :=
  if relative then ⟨pen.position.x + p.x, pen.position.y + p.y⟩ else ⟨0 + p.x, 0 + p.y⟩

/-- The reflection of a control point in the position of the pen. -/
def reflect (pen : Pen α) (control : Point α) : Point α :=
  ⟨2 * pen.position.x - control.x, 2 * pen.position.y - control.y⟩

def lineTo (pen : Pen α) (target : Point α) : Pen α :=
  { pen with
    position := target
    control := .none
    boundingBox := pen.boundingBox.insert target
    segments := pen.segments.push (.line target) }

def moveTo (pen : Pen α) (target : Point α) : Pen α :=
  { pen with
    position := target
    start := target
    control := .none
    boundingBox := pen.boundingBox.insert target
    segments := pen.segments.push (.move target) }

def curveTo (pen : Pen α) (control : LastControl α) (first second target : Point α) : Pen α :=
  { pen with
    position := target
    control
    boundingBox := pen.boundingBox.insertAll [first, second, target]
    segments := pen.segments.push (.curve ⟨first, second, target⟩) }

def cubicTo (pen : Pen α) (first second target : Point α) : Pen α :=
  pen.curveTo (.cubic second) first second target

/-- The point two thirds of the way from an end of a quadratic curve to its control point. -/
def elevate (stop control : Point α) : Point α :=
  ⟨stop.x + 2 / 3 * (control.x - stop.x), stop.y + 2 / 3 * (control.y - stop.y)⟩

/-- A quadratic curve is drawn as the cubic one with the same points. -/
def quadraticTo (pen : Pen α) (control target : Point α) : Pen α :=
  pen.curveTo (.quadratic control) (elevate pen.position control) (elevate target control) target

/-- An arc that has a radius, or spans a distance, below `minLength` is not drawn. -/
def arcTo (minLength : α) (pen : Pen α) (rx ry rotation : α) (large sweep : Bool)
    (target : Point α) : Pen α :=
  let degenerate := Scalar.abs rx < minLength || Scalar.abs ry < minLength ||
    (Scalar.abs (pen.position.x - target.x) < minLength &&
      Scalar.abs (pen.position.y - target.y) < minLength)
  if degenerate then
    { pen with position := target, control := .none, boundingBox := pen.boundingBox.insert target }
  else
    let center := EndpointArc.toCenter
      ⟨pen.position.x, pen.position.y, rx, ry, rotation, large, sweep, target.x, target.y⟩
    { pen with
      position := target
      control := .none
      boundingBox := (pen.boundingBox.union center.boundingBox).insert target
      segments := pen.segments.push (.arc center target) }

def close (pen : Pen α) : Pen α :=
  { pen with position := pen.start, control := .none, segments := pen.segments.push .close }

/-- Draws one group. A smooth curve whose predecessor has another degree starts without a bend. -/
def draw (minLength : α) (relative : Bool) (pen : Pen α) : PathStep α → Pen α
  | .move target => pen.moveTo (pen.locate relative target)
  | .line target => pen.lineTo (pen.locate relative target)
  | .horizontal x => pen.lineTo ⟨(pen.locate relative ⟨x, 0⟩).x, pen.position.y⟩
  | .vertical y => pen.lineTo ⟨pen.position.x, (pen.locate relative ⟨0, y⟩).y⟩
  | .cubic first second target =>
    pen.cubicTo (pen.locate relative first) (pen.locate relative second) (pen.locate relative target)
  | .smoothCubic second target =>
    let first := match pen.control with
      | .cubic control => pen.reflect control
      | _ => pen.position
    pen.cubicTo first (pen.locate relative second) (pen.locate relative target)
  | .quadratic control target =>
    pen.quadraticTo (pen.locate relative control) (pen.locate relative target)
  | .smoothQuadratic target =>
    let control := match pen.control with
      | .quadratic control => pen.reflect control
      | _ => pen.position
    pen.quadraticTo control (pen.locate relative target)
  | .arc rx ry rotation large sweep target =>
    pen.arcTo minLength rx ry rotation large sweep (pen.locate relative target)
  | .close => pen.close

/-- Draws all groups of a command, each from where the one before it ended. -/
def drawCommand (minLength : α) (pen : Pen α) (command : PathCommand α) : Pen α :=
  (PathStep.ofCommand minLength command).foldl (draw minLength command.relative) pen

end Pen

/-- The path that commands draw. -/
def Path.ofCommands (minLength : α) (commands : List (PathCommand α)) : Path α :=
  let pen := commands.foldl (Pen.drawCommand minLength) Pen.initial
  ⟨pen.segments.toList, pen.boundingBox⟩

/-- The path that path data describes. -/
def Path.interpret (minLength : α) (data : String) : Path α :=
  .ofCommands minLength (PathCommand.tokenize data)

end SvgPage
