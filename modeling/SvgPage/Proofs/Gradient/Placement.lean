import Mathlib.Tactic.FieldSimp
import Mathlib.Tactic.Ring
import SvgPage.Content.Outline
import SvgPage.Proofs.Gradient.Coordinates
import SvgPage.Proofs.Gradient.Resolution
import SvgPage.Proofs.Numeric.Laws

namespace SvgPage

variable {α : Type}

/-- The two points that a gradient runs between: the ends of a line, or a center and a focus. -/
def GradientGeometry.ends : GradientGeometry α → Point α × Point α
  | linear start stop => (start, stop)
  | radial center focus _ => (center, focus)

theorem Matrix.toPage_eq_iff [Scalar α] [Scalar.Measured α] {m : Matrix α} {pageHeight : α} {p q : Point α} :
    m.toPage pageHeight p = m.toPage pageHeight q ↔ m.apply p.x p.y = m.apply q.x q.y := by
  constructor
  · intro h
    refine congrArg₂ Point.mk (congrArg Point.x h) (Scalar.Measured.toReal_injective ?_)
    have hy := congrArg Scalar.Measured.toReal (congrArg Point.y h)
    simp only [toPage, Scalar.Measured.toReal_sub] at hy
    exact sub_right_injective hy
  · intro h
    rw [toPage, toPage, h]

namespace Gradient

/-- Where the coordinates of these points are declared. The focus is the center if it is not given. -/
def endNames (gradient : Gradient α) : (String × String) × (String × String) :=
  match gradient.kind with
  | .linear => (("x1", "y1"), ("x2", "y2"))
  | .radial =>
    (("cx", "cy"),
      (if gradient.attributes.contains "fx" then "fx" else "cx",
        if gradient.attributes.contains "fy" then "fy" else "cy"))

variable [Scalar α]

namespace Reading

/-- The point in user space that two attributes declare. -/
structure DeclaresPoint (reading : Reading α) (names : String × String) (p : Point α) : Prop where
  x : reading.target.Declares .x (reading.value names.1) p.x
  y : reading.target.Declares .y (reading.value names.2) p.y

theorem exists_declaresPoint (reading : Reading α) (names : String × String) : ∃ p, reading.DeclaresPoint names p := by
  obtain ⟨x, hx⟩ := reading.target.exists_declares .x (reading.value names.1)
  obtain ⟨y, hy⟩ := reading.target.exists_declares .y (reading.value names.2)
  exact ⟨⟨x, y⟩, hx, hy⟩

/-- A point that two attributes declare, in fractions of the box. -/
def fractionOf (reading : Reading α) (names : String × String) : Point α :=
  reading.toFraction (reading.coordinate names.1 .x) (reading.coordinate names.2 .y)

variable {reading : Reading α}

/-- The ends of a gradient are read from their attributes, unless they are the ends of a line and the same. -/
theorem geometry_ends [Scalar.Exact α] :
    (reading.gradient.kind = .linear ∧
        reading.fractionOf reading.gradient.endNames.1 = reading.fractionOf reading.gradient.endNames.2 ∧
        reading.geometry = .linear ⟨1, 0⟩ ⟨0.999, 0⟩) ∨
      ((reading.gradient.kind = .linear →
          reading.fractionOf reading.gradient.endNames.1 ≠ reading.fractionOf reading.gradient.endNames.2) ∧
        reading.geometry.ends =
          (reading.fractionOf reading.gradient.endNames.1, reading.fractionOf reading.gradient.endNames.2)) := by
  unfold geometry endNames
  cases reading.gradient.kind with
  | linear =>
    dsimp only
    split
    next hsame =>
      rw [Bool.and_eq_true, Scalar.Exact.beq_iff_eq, Scalar.Exact.beq_iff_eq] at hsame
      exact .inl ⟨rfl, congrArg₂ Point.mk hsame.1 hsame.2, rfl⟩
    next hdiffer =>
      refine .inr ⟨fun _ hsame => hdiffer ?_, rfl⟩
      rw [Bool.and_eq_true, Scalar.Exact.beq_iff_eq, Scalar.Exact.beq_iff_eq]
      exact ⟨congrArg Point.x hsame, congrArg Point.y hsame⟩
  | radial =>
    refine .inr ⟨?_, ?_⟩
    · rintro ⟨⟩
    · rw [fractionOf, fractionOf, apply_ite (reading.coordinate · .x), apply_ite (reading.coordinate · .y)]
      rfl

section Exact

variable [Scalar.Exact α] [Scalar.Measured α]

open Scalar.Measured

variable (hspace : reading.userSpace = true) (hwidth : reading.target.box.width ≠ 0)
  (hheight : reading.target.box.height ≠ 0)
include hspace hwidth hheight

/-- The fractions of the box that a point in user space is read as lie on the page where the point itself does. -/
theorem placement_apply_toFraction (x y : α) :
    reading.target.placement.apply (reading.toFraction x y).x (reading.toFraction x y).y =
      reading.transform.toPage reading.target.pageHeight ⟨x, y⟩ := by
  have hnonzero {size : α} (h : size ≠ 0) : ¬(size == 0) = true ∧ toReal size ≠ 0 :=
    ⟨mt (Scalar.Exact.beq_iff_eq _ _).1 h, ne_zero_iff.1 h⟩
  obtain ⟨hwide, hwidth⟩ := hnonzero hwidth
  obtain ⟨hhigh, hheight⟩ := hnonzero hheight
  have hfraction : reading.toFraction x y =
      ⟨((reading.transform.apply x y).x - reading.target.box.x) / reading.target.box.width,
        1 - ((reading.transform.apply x y).y - reading.target.box.y) / reading.target.box.height⟩ := by
    simp only [toFraction, hspace, if_true, if_neg hwide, if_neg hhigh]
  rw [hfraction, Matrix.toPage]
  generalize reading.transform.apply x y = mapped
  refine congrArg₂ Point.mk ?_ ?_
  · apply toReal_injective
    simp only [GradientTarget.placement, toReal_add, toReal_sub, toReal_mul, toReal_div _ _ hwidth, toReal_zero]
    field_simp
    ring
  · apply toReal_injective
    simp only [GradientTarget.placement, toReal_add, toReal_sub, toReal_mul, toReal_div _ _ hheight, toReal_zero,
      toReal_one]
    field_simp
    ring

variable {names others : String × String} {p q : Point α}

theorem placement_apply_fractionOf (hmode : reading.mode = .measure) (hp : reading.DeclaresPoint names p) :
    reading.target.placement.apply (reading.fractionOf names).x (reading.fractionOf names).y =
      reading.transform.toPage reading.target.pageHeight p := by
  rw [fractionOf, coordinate_eq hmode hspace hp.x, coordinate_eq hmode hspace hp.y]
  exact placement_apply_toFraction hspace hwidth hheight p.x p.y

theorem fractionOf_eq_iff (hmode : reading.mode = .measure) (hp : reading.DeclaresPoint names p)
    (hq : reading.DeclaresPoint others q) :
    reading.fractionOf names = reading.fractionOf others ↔
      reading.transform.toPage reading.target.pageHeight p = reading.transform.toPage reading.target.pageHeight q := by
  constructor
  · intro h
    rw [← placement_apply_fractionOf hspace hwidth hheight hmode hp,
      ← placement_apply_fractionOf hspace hwidth hheight hmode hq, h]
  · intro h
    rw [fractionOf, fractionOf, coordinate_eq hmode hspace hp.x, coordinate_eq hmode hspace hp.y,
      coordinate_eq hmode hspace hq.x, coordinate_eq hmode hspace hq.y, toFraction, toFraction,
      Matrix.toPage_eq_iff.1 h]

/-- The ends of a gradient lie on the page where its declared points do. -/
theorem placement_apply_ends (hmode : reading.mode = .measure)
    (hp : reading.DeclaresPoint reading.gradient.endNames.1 p)
    (hq : reading.DeclaresPoint reading.gradient.endNames.2 q) :
    let toPage := reading.transform.toPage reading.target.pageHeight
    let ends := reading.geometry.ends
    (reading.gradient.kind = .linear ∧ toPage p = toPage q ∧ reading.geometry = .linear ⟨1, 0⟩ ⟨0.999, 0⟩) ∨
      ((reading.gradient.kind = .linear → toPage p ≠ toPage q) ∧
        reading.target.placement.apply ends.1.x ends.1.y = toPage p ∧
        reading.target.placement.apply ends.2.x ends.2.y = toPage q) := by
  intro toPage ends
  have hiff := fractionOf_eq_iff hspace hwidth hheight hmode hp hq
  obtain ⟨hlinear, hsame, hgeometry⟩ | ⟨hdiffer, hends⟩ := reading.geometry_ends
  · exact .inl ⟨hlinear, hiff.1 hsame, hgeometry⟩
  · have hfirst : ends.1 = reading.fractionOf reading.gradient.endNames.1 := congrArg Prod.fst hends
    have hsecond : ends.2 = reading.fractionOf reading.gradient.endNames.2 := congrArg Prod.snd hends
    refine .inr ⟨fun hlinear hsame => hdiffer hlinear (hiff.2 hsame), ?_, ?_⟩
    · rw [hfirst]
      exact placement_apply_fractionOf hspace hwidth hheight hmode hp
    · rw [hsecond]
      exact placement_apply_fractionOf hspace hwidth hheight hmode hq

end Exact

end Reading

variable [Scalar.Exact α] [Scalar.Measured α] {gradients : Table (Gradient α)} {id : String} {target : GradientTarget α}
  {gradient : Gradient α}

/-- What is declared in user space is painted there: the ends of the gradient lie where the page has the declared
    points, moved as the gradient is. Only where both are the same for a line, other ones stand in their place. -/
theorem placed_of_userSpace (hget : gradients.get? id = some gradient)
    (hstops : ∃ other ∈ chain gradients id, other.stops ≠ []) (hunits : GivesUnits (chain gradients id) .userSpace)
    (hmode : coordinateMode α gradient.kind gradient.attributes = .measure) (hwidth : target.box.width ≠ 0)
    (hheight : target.box.height ≠ 0) :
    ∃ resolved, resolve? gradients id target = some resolved ∧ resolved.geometry.kind = gradient.kind ∧
      ∀ first second, (gradient.reading .userSpace target).DeclaresPoint gradient.endNames.1 first →
        (gradient.reading .userSpace target).DeclaresPoint gradient.endNames.2 second →
        let toPage := (gradient.transform.getD .identity).toPage target.pageHeight
        let ends := resolved.geometry.ends
        (gradient.kind = .linear ∧ toPage first = toPage second ∧ resolved.geometry = .linear ⟨1, 0⟩ ⟨0.999, 0⟩) ∨
          ((gradient.kind = .linear → toPage first ≠ toPage second) ∧
            resolved.placement.apply ends.1.x ends.1.y = toPage first ∧
            resolved.placement.apply ends.2.x ends.2.y = toPage second) := by
  obtain ⟨source, hsource⟩ := exists_givesStops_iff.2 hstops
  let reading := gradient.reading .userSpace target
  have hspace : reading.userSpace = true := by
    rw [reading_userSpace, hmode]
    rfl
  refine ⟨⟨reading.geometry, target.placement, sortStops source.stops⟩, ?_, ?_, ?_⟩
  · exact resolve?_eq_some_iff.2 ⟨gradient, source, .userSpace, hget, hsource, hunits, rfl, rfl, rfl⟩
  · rw [reading.kind_geometry, reading_gradient]
  · intro first second hfirst hsecond
    have hwide : reading.target.box.width ≠ 0 := by
      rw [reading_target]
      exact hwidth
    have hhigh : reading.target.box.height ≠ 0 := by
      rw [reading_target]
      exact hheight
    have hmeasure : reading.mode = .measure := by rw [reading_mode, hmode]
    have hends : reading.gradient.endNames = gradient.endNames := by rw [reading_gradient]
    rw [← hends] at hfirst hsecond
    have hplaced := Reading.placement_apply_ends hspace hwide hhigh hmeasure hfirst hsecond
    simp only [reading, reading_gradient, reading_target, reading_transform] at hplaced
    exact hplaced

end Gradient

namespace Exact

/-- A circle that is moved to the right by one. The ordinate of its focus is not given. -/
def sphere : Gradient Rat where
  id := "s"
  kind := .radial
  attributes := ⟨[("cx", "3"), ("cy", "50%"), ("fx", "50%"), ("r", "2")]⟩
  units := some .userSpace
  transform := some (.shift 1 0)
  href := none
  stops := [⟨0, .gray 0, 1⟩]

end Exact

namespace Gradient

/-- Its center and its focus lie on the page where they are declared in the box, moved by one. -/
theorem placed_sphere :
    ∃ resolved, resolve? ⟨[("s", Exact.sphere)]⟩ "s" Exact.target = some resolved ∧
      resolved.placement.apply resolved.geometry.ends.1.x resolved.geometry.ends.1.y = ⟨4, 97⟩ ∧
      resolved.placement.apply resolved.geometry.ends.2.x resolved.geometry.ends.2.y = ⟨2, 97⟩ := by
  have hmode : coordinateMode Rat Exact.sphere.kind Exact.sphere.attributes = .measure := by decide +kernel
  have hget : (⟨[("s", Exact.sphere)]⟩ : Table (Gradient Rat)).get? "s" = some Exact.sphere := rfl
  have hwidth : Exact.target.box.width ≠ Scalar.ofNat 0 := by decide +kernel
  have hheight : Exact.target.box.height ≠ Scalar.ofNat 0 := by decide +kernel
  obtain ⟨resolved, hresolved, -, hplaced⟩ :=
    placed_of_userSpace hget ⟨Exact.sphere, List.mem_singleton_self _, List.cons_ne_nil _ _⟩ (.here rfl) hmode
      hwidth hheight
  have hhalf : IsFraction "50%" (1 / 2 : Rat) := by
    have hread : Numeral.read? "50%" = some (.finite ⟨false, 50, 0⟩) := by decide +kernel
    convert IsFraction.within (α := Rat) hread (by decide +kernel) (by decide +kernel) using 1
    decide +kernel
  have hmiddle (axis : Axis) (middle : Rat)
      (h : axis.start Exact.target.box + 1 / 2 * axis.extent Exact.target.box = middle) :
      Exact.target.Declares axis "50%" middle := by
    rw [← h]
    exact .percentage (by decide +kernel) hhalf
  let reading := Exact.sphere.reading .userSpace Exact.target
  have hcenter : reading.DeclaresPoint Exact.sphere.endNames.1 ⟨3, 3⟩ := by
    have hx : reading.value "cx" = "3" := by decide +kernel
    have hy : reading.value "cy" = "50%" := by decide +kernel
    constructor
    · rw [reading_target]
      change Exact.target.Declares .x (reading.value "cx") 3
      rw [hx]
      exact .length (by decide +kernel) (by decide +kernel)
    · rw [reading_target]
      change Exact.target.Declares .y (reading.value "cy") 3
      rw [hy]
      exact hmiddle .y 3 (by decide +kernel)
  have hfocus : reading.DeclaresPoint Exact.sphere.endNames.2 ⟨1, 3⟩ := by
    have hx : reading.value "fx" = "50%" := by decide +kernel
    constructor
    · rw [reading_target]
      change Exact.target.Declares .x (reading.value "fx") 1
      rw [hx]
      exact hmiddle .x 1 (by decide +kernel)
    · exact hcenter.y
  obtain ⟨hlinear, -⟩ | ⟨-, hplaces⟩ := hplaced ⟨3, 3⟩ ⟨1, 3⟩ hcenter hfocus
  · cases hlinear
  · have hcenterAt : (Exact.sphere.transform.getD .identity).toPage 100 ⟨3, 3⟩ = ⟨4, 97⟩ := by decide +kernel
    have hfocusAt : (Exact.sphere.transform.getD .identity).toPage 100 ⟨1, 3⟩ = ⟨2, 97⟩ := by decide +kernel
    exact ⟨resolved, hresolved, hplaces.1.trans hcenterAt, hplaces.2.trans hfocusAt⟩

end Gradient

end SvgPage
