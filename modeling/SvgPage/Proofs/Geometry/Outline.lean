import SvgPage.Content.Outline
import SvgPage.Element.Shape
import SvgPage.Proofs.Geometry.Flip

namespace SvgPage

variable {α : Type} [Scalar α]

/-- An operator with the points it names mapped. -/
def Operator.under (matrix : Matrix α) : Operator α → Operator α
  | .moveTo target => .moveTo (matrix.apply target.x target.y)
  | .lineTo target => .lineTo (matrix.apply target.x target.y)
  | .curveTo ⟨first, second, target⟩ =>
    .curveTo ⟨matrix.apply first.x first.y, matrix.apply second.x second.y, matrix.apply target.x target.y⟩
  | operator => operator

def Point.shift (tx ty : α) (p : Point α) : Point α := ⟨p.x + tx, p.y + ty⟩

def Cubic.shift (tx ty : α) (cubic : Cubic α) : Cubic α :=
  ⟨cubic.first.shift tx ty, cubic.second.shift tx ty, cubic.target.shift tx ty⟩

def CenterArc.shift (tx ty : α) (arc : CenterArc α) : CenterArc α :=
  { arc with cx := arc.cx + tx, cy := arc.cy + ty }

def Segment.shift (tx ty : α) : Segment α → Segment α
  | move target => move (target.shift tx ty)
  | line target => line (target.shift tx ty)
  | curve cubic => curve (cubic.shift tx ty)
  | arc center target => arc (center.shift tx ty) (target.shift tx ty)
  | close => close

variable [Scalar.Exact α]

theorem Matrix.apply_flip_toPage (matrix : Matrix α) (pageHeight : α) (p : Point α) :
    let q := (Matrix.identity : Matrix α).toPage pageHeight p
    (matrix.flip pageHeight).apply q.x q.y = matrix.toPage pageHeight p := by
  let _ : CommRing α := Scalar.Exact.commRing
  simp only [flip, apply, toPage, identity, Point.mk.injEq]
  constructor <;> grind

/-- A map in force where the page counts upwards takes the outline to where the map takes the path. -/
theorem Path.operators_under (path : Path α) (matrix : Matrix α) (pageHeight : α) :
    (path.operators pageHeight .identity).map (Operator.under (matrix.flip pageHeight)) =
      path.operators pageHeight matrix := by
  have hsegment (segment : Segment α) :
      (segment.operators ((Matrix.identity : Matrix α).toPage pageHeight)).map
          (Operator.under (matrix.flip pageHeight)) =
        segment.operators (matrix.toPage pageHeight) := by
    have hpoint := matrix.apply_flip_toPage pageHeight
    cases segment with
    | arc center target =>
      simp only [Segment.operators, List.map_map]
      apply List.map_congr_left
      intro cubic _
      simp only [Function.comp_apply, Operator.under, hpoint]
    | _ => simp only [Segment.operators, List.map_cons, List.map_nil, Operator.under, hpoint]
  simp only [operators, List.map_flatMap, hsegment]

section Shift

theorem CenterArc.cubicBetween_shift (arc : CenterArc α) (tx ty kappa angle next : α) :
    (arc.shift tx ty).cubicBetween kappa angle next = (arc.cubicBetween kappa angle next).shift tx ty := by
  let _ : CommRing α := Scalar.Exact.commRing
  simp only [cubicBetween, point, tangent, shift, Cubic.shift, Point.shift, Cubic.mk.injEq, Point.mk.injEq]
  refine ⟨⟨?_, ?_⟩, ⟨?_, ?_⟩, ?_, ?_⟩ <;> grind

theorem CenterArc.cubics_shift (arc : CenterArc α) (tx ty : α) :
    (arc.shift tx ty).cubics = arc.cubics.map (Cubic.shift tx ty) := by
  have hfrom (kappa delta : α) (count : Nat) (angle : α) :
      (arc.shift tx ty).cubicsFrom kappa delta count angle =
        (arc.cubicsFrom kappa delta count angle).map (Cubic.shift tx ty) := by
    induction count generalizing angle with
    | zero => rfl
    | succ count ih => simp only [cubicsFrom, List.map_cons, cubicBetween_shift, ih]
  exact hfrom _ _ _ _

theorem Matrix.toPage_shift (matrix : Matrix α) (pageHeight tx ty : α) (p : Point α) :
    matrix.toPage pageHeight (p.shift tx ty) = (matrix.multiply (.shift tx ty)).toPage pageHeight p := by
  let _ : CommRing α := Scalar.Exact.commRing
  simp only [toPage, apply, Point.shift, multiply, shift, Point.mk.injEq]
  constructor <;> grind

/-- Shifting all segments of a path has the effect of a shift before the map. -/
theorem Segment.operators_shift (segment : Segment α) (matrix : Matrix α) (pageHeight tx ty : α) :
    (segment.shift tx ty).operators (matrix.toPage pageHeight) =
      segment.operators ((matrix.multiply (.shift tx ty)).toPage pageHeight) := by
  cases segment with
  | arc center target =>
    simp only [shift, operators, CenterArc.cubics_shift, List.map_map]
    apply List.map_congr_left
    intro cubic _
    simp only [Function.comp_apply, Cubic.shift, Matrix.toPage_shift]
  | _ => simp only [shift, operators, Cubic.shift, Matrix.toPage_shift]

theorem rectSegments_shift (x y width height rx ry tx ty : α) :
    rectSegments (x + tx) (y + ty) width height rx ry =
      (rectSegments x y width height rx ry).map (Segment.shift tx ty) := by
  let _ : CommRing α := Scalar.Exact.commRing
  have hright : x + tx + width = x + width + tx := by grind
  have hbottom : y + ty + height = y + height + ty := by grind
  have hbeforeRight : x + width + tx - rx = x + width - rx + tx := by grind
  have hafterLeft : x + tx + rx = x + rx + tx := by grind
  have hafterTop : y + ty + ry = y + ry + ty := by grind
  have hbeforeBottom : y + height + ty - ry = y + height - ry + ty := by grind
  simp only [rectSegments, hright, hbottom, hbeforeRight, hafterLeft, hafterTop, hbeforeBottom]
  split <;> rfl

/-- A rectangle that is shifted lies where a shift before the map takes it. -/
theorem Path.operators_rect (matrix : Matrix α) (pageHeight x y width height rx ry tx ty : α) :
    (Path.ofSegments (rectSegments (x + tx) (y + ty) width height rx ry)).operators pageHeight matrix =
      (Path.ofSegments (rectSegments x y width height rx ry)).operators pageHeight
        (matrix.multiply (.shift tx ty)) := by
  simp only [operators, ofSegments, rectSegments_shift, List.flatMap_map, Segment.operators_shift]

end Shift

end SvgPage
