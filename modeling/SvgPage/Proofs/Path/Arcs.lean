import SvgPage.Proofs.Geometry.Arc
import SvgPage.Proofs.Path.Leading

namespace SvgPage

variable {α : Type}

/-- The ellipse that a segment follows, if it is an arc. -/
def Segment.center? : Segment α → Option (CenterArc α)
  | arc center _ => some center
  | _ => none

/-- The radii of a group that draws an arc. -/
def PathStep.radii? : PathStep α → Option (α × α)
  | arc rx ry .. => some (rx, ry)
  | _ => none

variable [Scalar α]

namespace Pen

variable (minLength : α) (pen : Pen α)

/-- The arc that a group draws by its end points. An arc that is left out is none. -/
def conversion? (relative : Bool) : PathStep α → Option (EndpointArc α)
  | .arc rx ry rotation large sweep target =>
    let stop := pen.locate relative target
    if pen.leavesOut minLength rx ry stop then none
    else some ⟨pen.position.x, pen.position.y, rx, ry, rotation, large, sweep, stop.x, stop.y⟩
  | _ => none

/-- The arcs that are brought to their centers while groups are drawn. -/
def conversions (pen : Pen α) : List (Bool × PathStep α) → List (EndpointArc α)
  | [] => []
  | (relative, step) :: rest =>
    (pen.conversion? minLength relative step).toList ++ conversions (pen.draw minLength relative step) rest

/-- A group adds an arc just if one is converted, and it is that one. -/
theorem centers_draw (relative : Bool) (step : PathStep α) :
    (pen.draw minLength relative step).segments.toList.filterMap Segment.center? =
      pen.segments.toList.filterMap Segment.center? ++
        ((pen.conversion? minLength relative step).map EndpointArc.toCenter).toList := by
  cases step with
  | arc rx ry rotation large sweep target =>
    have hdrawn := pen.segments_arcTo minLength rx ry rotation large sweep (pen.locate relative target)
    rw [draw, hdrawn, conversion?]
    dsimp only
    split
    · simp
    · simp [Segment.center?]
  | _ => simp [draw, conversion?, moveTo, lineTo, curveTo, cubicTo, quadraticTo, close, Segment.center?]

theorem centers_foldl (groups : List (Bool × PathStep α)) :
    (groups.foldl (fun pen group => pen.draw minLength group.1 group.2) pen).segments.toList.filterMap
        Segment.center? =
      pen.segments.toList.filterMap Segment.center? ++ (pen.conversions minLength groups).map EndpointArc.toCenter := by
  induction groups generalizing pen with
  | nil => simp [conversions]
  | cons group rest ih =>
    obtain ⟨relative, step⟩ := group
    rw [List.foldl_cons, ih, centers_draw, conversions, List.map_append, List.append_assoc]
    cases pen.conversion? minLength relative step <;> rfl

variable {minLength pen}

theorem exists_of_mem_conversions {groups : List (Bool × PathStep α)} {arc : EndpointArc α}
    (h : arc ∈ pen.conversions minLength groups) :
    ∃ group ∈ groups, ∃ pen : Pen α, pen.conversion? minLength group.1 group.2 = some arc := by
  induction groups generalizing pen with
  | nil => cases h
  | cons group rest ih =>
    obtain ⟨relative, step⟩ := group
    obtain hfirst | hrest := List.mem_append.1 h
    · exact ⟨(relative, step), List.mem_cons_self, pen, Option.mem_toList.1 hfirst⟩
    · obtain ⟨other, hmem, before, harc⟩ := ih hrest
      exact ⟨other, .tail _ hmem, before, harc⟩

/-- An arc that is converted has the radii it is given, and they are not below the least length. -/
theorem radii_of_conversion {relative : Bool} {step : PathStep α} {arc : EndpointArc α}
    (h : pen.conversion? minLength relative step = some arc) :
    step.radii? = some (arc.rx, arc.ry) ∧ ¬Scalar.abs arc.rx < minLength ∧ ¬Scalar.abs arc.ry < minLength := by
  cases step with
  | arc rx ry rotation large sweep target =>
    simp only [conversion?] at h
    split at h
    · cases h
    next hdrawn =>
      cases h
      simp only [leavesOut, Bool.or_eq_true, decide_eq_true_eq, not_or] at hdrawn
      exact ⟨rfl, hdrawn.1.1, hdrawn.1.2⟩
  | _ => cases h

section Exact

variable [Scalar.Measured α] {groups : List (Bool × PathStep α)}

open Scalar.Measured

/-- No radius that is as long as a length is zero. -/
theorem ne_zero_of_not_abs_lt {x : α} (hlength : 0 < minLength) (h : ¬Scalar.abs x < minLength) : x ≠ 0 := by
  rintro rfl
  rw [lt_iff, toReal_zero] at hlength
  rw [lt_iff, toReal_abs, toReal_zero, abs_zero] at h
  exact h hlength

/-- Without a least length, all arcs are converted. -/
theorem mem_conversions_of_radii (pen : Pen α) (hlength : ¬0 < minLength) {group : Bool × PathStep α}
    (hgroup : group ∈ groups) {rx ry : α} (hradii : group.2.radii? = some (rx, ry)) :
    ∃ arc ∈ pen.conversions minLength groups, arc.rx = rx ∧ arc.ry = ry := by
  have hnever (x : α) : ¬Scalar.abs x < minLength := by
    rw [lt_iff, toReal_zero, not_lt] at hlength
    rw [lt_iff, toReal_abs, not_lt]
    exact hlength.trans (abs_nonneg _)
  induction groups generalizing pen with
  | nil => cases hgroup
  | cons first rest ih =>
    obtain ⟨relative, step⟩ := first
    obtain rfl | hrest := List.mem_cons.1 hgroup
    · cases step with
      | arc rx' ry' rotation large sweep target =>
        cases hradii
        have hdrawn : ¬pen.leavesOut minLength rx ry (pen.locate relative target) = true := by
          simp [leavesOut, hnever]
        exact ⟨_, List.mem_append_left _ (Option.mem_toList.2 (if_neg hdrawn)), rfl, rfl⟩
      | _ => cases hradii
    · obtain ⟨arc, harc, hsame⟩ := ih (pen.draw minLength relative step) hrest
      exact ⟨arc, List.mem_append_right _ harc, hsame⟩

end Exact

end Pen

namespace Path

/-- The arcs of path data that are brought to their centers. -/
def conversions (minLength : α) (data : String) : List (EndpointArc α) :=
  Pen.initial.conversions minLength (groups minLength data)

/-- The arcs of a path are those that are converted. All quotients of their conversion have a meaning, and no radius is
    zero before or after it grows, just if there is a least length or no radius in the path data is zero. -/
theorem quotients_of_conversions [Scalar.Exact α] [Scalar.Measured α] [Scalar.Rooted α] (minLength : α)
    (data : String) :
    (interpret minLength data).segments.filterMap Segment.center? =
        (conversions minLength data).map EndpointArc.toCenter ∧
      ((∀ arc ∈ conversions minLength data, arc.rx ≠ 0 ∧ arc.ry ≠ 0 ∧ arc.toCenter? = some arc.toCenter ∧
          arc.toCenter.rx ≠ 0 ∧ arc.toCenter.ry ≠ 0) ↔
        0 < minLength ∨ ∀ group ∈ groups minLength data, ∀ radii ∈ group.2.radii?, radii.1 ≠ 0 ∧ radii.2 ≠ 0) := by
  refine ⟨?_, ?_, ?_⟩
  · rw [interpret_segments, Pen.centers_foldl]
    rfl
  · intro hall
    by_cases hlength : 0 < minLength
    · exact .inl hlength
    · refine .inr fun group hgroup ⟨rx, ry⟩ hradii => ?_
      obtain ⟨arc, harc, rfl, rfl⟩ := Pen.initial.mem_conversions_of_radii hlength hgroup hradii
      exact ⟨(hall arc harc).1, (hall arc harc).2.1⟩
  · intro hradii arc harc
    obtain ⟨group, hgroup, pen, hconverted⟩ := Pen.exists_of_mem_conversions harc
    obtain ⟨hgiven, hrx, hry⟩ := Pen.radii_of_conversion hconverted
    have hnonzero : arc.rx ≠ 0 ∧ arc.ry ≠ 0 := by
      obtain hlength | hall := hradii
      · exact ⟨Pen.ne_zero_of_not_abs_lt hlength hrx, Pen.ne_zero_of_not_abs_lt hlength hry⟩
      · exact hall group hgroup _ hgiven
    exact ⟨hnonzero.1, hnonzero.2, EndpointArc.toCenter?_eq hnonzero.1 hnonzero.2⟩

/-- With a least length, the arc from the origin to (10, 10) is converted, and all its quotients have a meaning. -/
theorem quotients_of_arc_to_ten :
    let minLength : RealNumber := Scalar.ofDecimal 1 (-2)
    ∃ arc ∈ conversions minLength "A5 5 0 0 1 10 10",
      arc.rx ≠ 0 ∧ arc.ry ≠ 0 ∧ arc.toCenter? = some arc.toCenter := by
  intro minLength
  let five : RealNumber := Decimal.value ⟨false, 5, 0⟩
  let ten : RealNumber := Decimal.value ⟨false, 10, 0⟩
  have hlength : (0 : RealNumber) < minLength := by
    change ((0 : ℕ) : ℝ) * (10 : ℝ) ^ (0 : ℤ) < (1 : ℕ) * (10 : ℝ) ^ (-2 : ℤ)
    norm_num
  have hfive : ¬Scalar.abs five < minLength := by
    change ¬|((5 : ℕ) : ℝ) * (10 : ℝ) ^ (0 : ℤ)| < (1 : ℕ) * (10 : ℝ) ^ (-2 : ℤ)
    norm_num
  have hten : ¬Scalar.abs ten < minLength := by
    change ¬|((10 : ℕ) : ℝ) * (10 : ℝ) ^ (0 : ℤ)| < (1 : ℕ) * (10 : ℝ) ^ (-2 : ℤ)
    norm_num
  have hspan : ¬Scalar.abs (0 - (0 + ten)) < minLength := by
    change ¬|((0 : ℕ) : ℝ) * (10 : ℝ) ^ (0 : ℤ) - ((0 : ℕ) * (10 : ℝ) ^ (0 : ℤ) + (10 : ℕ) * (10 : ℝ) ^ (0 : ℤ))| <
      (1 : ℕ) * (10 : ℝ) ^ (-2 : ℤ)
    norm_num
  have hdata {β : Type} [Scalar β] : (PathCommand.tokenize "A5 5 0 0 1 10 10" : List (PathCommand β)) =
      [⟨.arc, false, [Decimal.value ⟨false, 5, 0⟩, Decimal.value ⟨false, 5, 0⟩, Decimal.value ⟨false, 0, 0⟩,
        Decimal.value ⟨false, 0, 0⟩, Decimal.value ⟨false, 1, 0⟩, Decimal.value ⟨false, 10, 0⟩,
        Decimal.value ⟨false, 10, 0⟩]⟩] := by cbv
  let zero : RealNumber := Decimal.value ⟨false, 0, 0⟩
  let one : RealNumber := Decimal.value ⟨false, 1, 0⟩
  have hgroups : groups minLength "A5 5 0 0 1 10 10" =
      [(false, .arc five five zero (zero != 0) (one != 0) ⟨ten, ten⟩)] := by
    simp only [groups, hdata, PathStep.ofCommand, PathStep.arcs, five, ten, if_neg hfive, if_neg hten,
      List.flatMap_singleton, List.map_cons, List.map_nil]
    rfl
  have hdrawn : Pen.initial.leavesOut minLength five five ⟨0 + ten, 0 + ten⟩ = false := by
    simp [Pen.leavesOut, Pen.initial, hfive, hspan]
  have hmem : ∃ arc, arc ∈ conversions minLength "A5 5 0 0 1 10 10" := by
    rw [conversions, hgroups]
    exact ⟨_, List.mem_append_left _ (Option.mem_toList.2 (if_neg (Bool.eq_false_iff.1 hdrawn)))⟩
  obtain ⟨arc, harc⟩ := hmem
  obtain ⟨hrx, hry, hquotients, -⟩ := (quotients_of_conversions _ _).2.2 (.inl hlength) arc harc
  exact ⟨arc, harc, hrx, hry, hquotients⟩
/-- Without a least length, an arc with a radius of zero is converted, which divides by zero. -/
theorem quotient_by_zero :
    ∃ arc : EndpointArc Rat, conversions 0 "M0 0 A 0 5 0 0 1 10 0" = [arc] ∧ arc.rx = 0 ∧ arc.toCenter? = none := by
  refine ⟨⟨0, 0, 0, 5, 0, false, true, 10, 0⟩, ?_, rfl, EndpointArc.toCenter?_eq_none (.inl ?_)⟩
  · decide +kernel
  · exact (ofNat_rat 0).symm

end Path

end SvgPage
