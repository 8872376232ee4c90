import Mathlib.Tactic.Linarith
import Mathlib.Tactic.Ring
import SvgPage.Proofs.Gradient.Coordinates
import SvgPage.Proofs.Gradient.Resolution

namespace SvgPage

variable {α : Type} [Scalar α]

/-- Whether a text is written as a number without a unit, and denotes the given one. -/
def WritesNumber (text : String) (value : α) : Prop :=
  isPercentage text = false ∧ ∃ decimal, Css.Length.scan? text = some (decimal, "") ∧ decimal.value = value

/-- Whether a text is written as a percentage that denotes the given fraction. -/
def WritesPercentage (text : String) (value : α) : Prop :=
  isPercentage text = true ∧ ∃ decimal, Numeral.read? text = some (.finite decimal) ∧ decimal.value = 100 * value

/-- Whether a text denotes a fraction in one of these two ways. -/
structure WritesFraction (text : String) (value : α) : Prop where
  isFraction : ¬value < 0 ∧ ¬1 < value
  written : WritesNumber text value ∨ WritesPercentage text value

section Read

variable [Scalar.Measured α] {text : String} {value : α}

open Scalar.Measured

omit [Scalar.Measured α] in
theorem WritesNumber.length_read? (h : WritesNumber text value) (lengths : Css.LengthContext α) :
    Css.Length.read? text 0 lengths = some value := by
  obtain ⟨-, decimal, hscan, rfl⟩ := h
  simp only [Css.Length.read?, hscan]
  rfl

/-- As a percentage, a number is a hundredth of what it is. -/
theorem WritesNumber.readFraction_eq (h : WritesNumber text value) (hvalue : ¬value < 0 ∧ ¬1 < value) :
    readFraction text = value / 100 := by
  obtain ⟨-, decimal, hscan, rfl⟩ := h
  have hread : Numeral.read? text = some (.finite decimal) := by
    obtain ⟨⟨amount, rest⟩, hamount, hrest⟩ := Option.bind_eq_some_iff.1 hscan
    obtain ⟨-, -, hunit⟩ := Option.bind_eq_some_iff.1 hrest
    obtain ⟨rfl, -⟩ := Prod.mk.inj (Option.some.inj hunit)
    simp only [Numeral.read?, hamount]
  obtain ⟨hlow, hhigh⟩ := hvalue
  refine SvgPage.readFraction_eq (.within hread hlow fun habove => hhigh ?_)
  have hhundred : toReal (100 : α) = 100 := toReal_ofNat 100
  rw [lt_iff, hhundred] at habove
  rw [lt_iff, toReal_one]
  linarith

theorem WritesPercentage.readFraction_eq (h : WritesPercentage text value) (hvalue : ¬value < 0 ∧ ¬1 < value) :
    readFraction text = value := by
  obtain ⟨-, decimal, hread, hdecimal⟩ := h
  have hhundred : toReal (100 : α) = 100 := toReal_ofNat 100
  have hreal : toReal (decimal.value : α) = 100 * toReal value := by rw [hdecimal, toReal_mul, hhundred]
  rw [lt_iff, lt_iff, toReal_zero, toReal_one, not_lt, not_lt] at hvalue
  have hfraction : (decimal.value / 100 : α) = value := by
    apply toReal_injective
    rw [toReal_percent, hreal]
    ring
  rw [← hfraction]
  refine SvgPage.readFraction_eq (.within hread ?_ ?_)
  · rw [lt_iff, hreal, toReal_zero]
    linarith
  · rw [lt_iff, hreal, hhundred]
    linarith

end Read

namespace Gradient

/-- The gradient with other attributes. What has been read from them already is left as it is. -/
def withAttributes (gradient : Gradient α) (attributes : Attributes) : Gradient α := { gradient with attributes }

/-- The coordinates of the ends of a line. -/
def lineCoordinates : List String := ["x1", "y1", "x2", "y2"]

/-- Whether the same coordinates are given, and denote the same fractions. -/
def SameFractions (α : Type) [Scalar α] (first second : Attributes) : Prop :=
  ∀ name ∈ lineCoordinates, (first.get? name = none ∧ second.get? name = none) ∨
    ∃ text other, first.get? name = some text ∧ second.get? name = some other ∧
      ∃ value : α, WritesFraction (Text.trim text) value ∧ WritesFraction (Text.trim other) value

/-- Whether the numbers among the coordinates are read as they are written. Where the first coordinate is no number,
    all others are read as percentages, and of those only zero is what it would be as a number. -/
def KeepsNumbers (α : Type) [Scalar α] (attributes : Attributes) : Prop :=
  (∃ text, attributes.get? "x1" = some text ∧ isPercentage (Text.trim text) = false) ∨
    ∀ name ∈ lineCoordinates, ∀ text, attributes.get? name = some text →
      ∀ value : α, WritesNumber (Text.trim text) value → value = 0

theorem coordinateMode_linear (attributes : Attributes) :
    coordinateMode α .linear attributes =
      if isPercentage (Text.trim ((attributes.get? "x1").getD "0%")) then .percentage else .measure := by
  simp only [coordinateMode]

namespace Reading

variable {first second : Reading α}

/-- What is painted along a line depends on nothing but the coordinates of its ends and where they are taken to. -/
theorem geometry_congr (hfirst : first.gradient.kind = .linear) (hsecond : second.gradient.kind = .linear)
    (htarget : first.target = second.target) (htransform : first.transform = second.transform)
    (hspace : first.userSpace = second.userSpace)
    (hcoordinate : ∀ name ∈ lineCoordinates, ∀ axis, first.coordinate name axis = second.coordinate name axis) :
    first.geometry = second.geometry := by
  have hfraction (x y : α) : first.toFraction x y = second.toFraction x y := by
    rw [toFraction, toFraction, htarget, htransform, hspace]
  simp only [lineCoordinates, List.forall_mem_cons] at hcoordinate
  obtain ⟨hx1, hy1, hx2, hy2, -⟩ := hcoordinate
  simp only [geometry, hfirst, hsecond, hfraction, hx1, hy1, hx2, hy2]

end Reading

section Read

variable {gradient : Gradient α} {target : GradientTarget α} {name text : String} {value : α}

theorem userSpace_boundingBox (gradient : Gradient α) (target : GradientTarget α) :
    (gradient.reading .boundingBox target).userSpace = false := by
  rw [reading_userSpace, Bool.and_eq_false_iff]
  exact .inr rfl

/-- In fractions of the box, a percentage is read as a fraction, and a number so too if the gradient is read in
    percentages. -/
theorem coordinate_boundingBox (hkind : gradient.kind = .linear) (axis : Axis) :
    (gradient.reading .boundingBox target).coordinate name axis =
      let text := Text.trim ((gradient.attributes.get? name).getD (defaultCoordinate .linear name))
      if isPercentage text ∨ coordinateMode α .linear gradient.attributes = .percentage then readFraction text
      else (Css.Length.read? text 0 target.lengths).getD 0 := by
  simp only [Reading.coordinate, Reading.value, reading_gradient, reading_target, reading_mode, userSpace_boundingBox,
    hkind, Bool.not_false, if_true, beq_iff_eq]
  split
  next hpercentage => rw [if_pos (.inl hpercentage)]
  next hnumber => exact if_congr (or_iff_right hnumber).symm rfl rfl

/-- A coordinate that is not given is a percentage. -/
theorem coordinate_of_missing (hkind : gradient.kind = .linear) (hname : name ∈ lineCoordinates)
    (hget : gradient.attributes.get? name = none) (axis : Axis) :
    (gradient.reading .boundingBox target).coordinate name axis =
      readFraction (Text.trim (defaultCoordinate .linear name)) := by
  have hdefault : ∀ name ∈ lineCoordinates, isPercentage (Text.trim (defaultCoordinate .linear name)) = true := by
    decide +kernel
  rw [coordinate_boundingBox hkind, hget]
  exact if_pos (.inl (hdefault name hname))

/-- A fraction is read as what it denotes, but for a number where the gradient is read in percentages: that is read as
    a hundredth. -/
theorem coordinate_of_writesFraction [Scalar.Measured α] (hkind : gradient.kind = .linear)
    (hget : gradient.attributes.get? name = some text) (h : WritesFraction (Text.trim text) value) (axis : Axis) :
    (gradient.reading .boundingBox target).coordinate name axis =
      if isPercentage (Text.trim text) = false ∧ coordinateMode α .linear gradient.attributes = .percentage then
        value / 100
      else value := by
  rw [coordinate_boundingBox hkind, hget, Option.getD_some]
  dsimp only
  obtain hnumber | hpercentage := h.written
  · have hplain : ¬isPercentage (Text.trim text) = true := Bool.eq_false_iff.1 hnumber.1
    rw [if_congr (or_iff_right hplain) rfl rfl, if_congr (and_iff_right hnumber.1) rfl rfl,
      hnumber.readFraction_eq h.isFraction, hnumber.length_read?, Option.getD_some]
  · have hnot : ¬isPercentage (Text.trim text) = false := by simp [hpercentage.1]
    rw [if_pos (.inl hpercentage.1), if_neg (mt And.left hnot), hpercentage.readFraction_eq h.isFraction]

/-- So a fraction is read as what it denotes, in either way of writing it, where numbers are kept. -/
theorem coordinate_of_keepsNumbers [Scalar.Measured α] (hkind : gradient.kind = .linear)
    (hkeeps : KeepsNumbers α gradient.attributes) (hname : name ∈ lineCoordinates)
    (hget : gradient.attributes.get? name = some text) (h : WritesFraction (Text.trim text) value) (axis : Axis) :
    (gradient.reading .boundingBox target).coordinate name axis = value := by
  rw [coordinate_of_writesFraction hkind hget h]
  split
  next hread =>
    obtain ⟨hplain, hmode⟩ := hread
    obtain ⟨first, hfirst, hnone⟩ | hzero := hkeeps
    · rw [coordinateMode_linear, hfirst, Option.getD_some, hnone] at hmode
      cases hmode
    · have hnumber := h.written.resolve_right fun hpercentage => by simp [hpercentage.1] at hplain
      rw [hzero name hname text hget value hnumber]
      apply Scalar.Measured.toReal_injective
      rw [Scalar.Measured.toReal_percent, Scalar.Measured.toReal_zero, zero_div]
  · rfl

end Read

section Resolve

variable {gradients : Table (Gradient α)} {id : String} {gradient : Gradient α} {rewritten : Attributes}
  {units : GradientUnits}

theorem resolve?_eq (target : GradientTarget α) (hget : gradients.get? id = some gradient)
    (hunits : GivesUnits (chain gradients id) units) :
    resolve? gradients id target = (((chain gradients id).map stops).find? (!·.isEmpty)).map fun stops =>
      ⟨(gradient.reading units target).geometry, target.placement, sortStops stops⟩ := by
  have hsource : ((chain gradients id).map stops).find? (!·.isEmpty) =
      ((chain gradients id).find? fun gradient => !gradient.stops.isEmpty).map stops := List.find?_map ..
  have hhead : (chain gradients id).head? = some gradient := (head?_chain gradients id).trans hget
  rw [hsource, Option.map_map]
  simp only [resolve?, hhead, givesUnits_iff.1 hunits]
  cases (chain gradients id).find? fun gradient => !gradient.stops.isEmpty with
  | none => rfl
  | some source => rfl

omit [Scalar α] in
theorem map_chain_withAttributes {β : Type} (view : Gradient α → β)
    (h : ∀ gradient, view (gradient.withAttributes rewritten) = view gradient) :
    (chain (gradients.modify id (·.withAttributes rewritten)) id).map view = (chain gradients id).map view :=
  map_chain_modify (fun gradient => (rfl : (gradient.withAttributes rewritten).href = gradient.href)) h id id

omit [Scalar α] in
theorem GivesUnits.withAttributes (h : GivesUnits (chain gradients id) units) :
    GivesUnits (chain (gradients.modify id (·.withAttributes rewritten)) id) units := by
  rw [givesUnits_iff] at h ⊢
  have hview : (chain (gradients.modify id (·.withAttributes rewritten)) id).map Gradient.units =
      (chain gradients id).map Gradient.units := map_chain_withAttributes Gradient.units fun _ => rfl
  have hdeclared := congrArg (List.findSome? fun units => units) hview
  rw [List.findSome?_map, List.findSome?_map] at hdeclared
  refine Eq.trans ?_ h
  exact congrArg (Option.getD · .boundingBox) hdeclared

variable [Scalar.Measured α]

/-- A line leads from and to the same points in either way of writing its coordinates. -/
theorem geometry_withAttributes (hkind : gradient.kind = .linear)
    (hsame : SameFractions α gradient.attributes rewritten) (hkeeps : KeepsNumbers α gradient.attributes)
    (hrewritten : KeepsNumbers α rewritten) (target : GradientTarget α) :
    ((gradient.withAttributes rewritten).reading .boundingBox target).geometry =
      (gradient.reading .boundingBox target).geometry := by
  have hotherKind : (gradient.withAttributes rewritten).kind = .linear := hkind
  apply Reading.geometry_congr
  · rw [reading_gradient, hotherKind]
  · rw [reading_gradient, hkind]
  · rw [reading_target, reading_target]
  · rw [reading_transform, reading_transform]
    rfl
  · rw [userSpace_boundingBox, userSpace_boundingBox]
  · intro name hname axis
    obtain ⟨hfirst, hsecond⟩ | ⟨text, written, hfirst, hsecond, value, hvalue, hwritten⟩ := hsame name hname
    · rw [coordinate_of_missing hotherKind hname hsecond, coordinate_of_missing hkind hname hfirst]
    · rw [coordinate_of_keepsNumbers hotherKind hrewritten hname hsecond hwritten,
        coordinate_of_keepsNumbers hkind hkeeps hname hfirst hvalue]

/-- A coordinate of a line in fractions of the box is as well written as a number as it is as a percentage, as long as
    numbers are kept. -/
theorem unchanged_of_sameFractions (hget : gradients.get? id = some gradient) (hkind : gradient.kind = .linear)
    (hunits : GivesUnits (chain gradients id) .boundingBox) (hsame : SameFractions α gradient.attributes rewritten)
    (hkeeps : KeepsNumbers α gradient.attributes) (hrewritten : KeepsNumbers α rewritten)
    (target : GradientTarget α) :
    resolve? (gradients.modify id (·.withAttributes rewritten)) id target = resolve? gradients id target := by
  have hother : (gradients.modify id (·.withAttributes rewritten)).get? id =
      some (gradient.withAttributes rewritten) := by
    rw [Table.get?_modify, if_pos rfl, hget, Option.map_some]
  rw [resolve?_eq target hother hunits.withAttributes, resolve?_eq target hget hunits,
    map_chain_withAttributes stops fun _ => rfl, geometry_withAttributes hkind hsame hkeeps hrewritten]

end Resolve

end Gradient

namespace Exact

/-- A line of two colors with the given coordinates, moved to the right by one half. -/
def bar (attributes : Attributes) : Gradient Rat where
  id := "b"
  kind := .linear
  attributes
  units := none
  transform := some (.shift (1 / 2) 0)
  href := none
  stops := [⟨0, .gray 0, 1⟩, ⟨1, .gray 1, 1⟩]

end Exact

namespace Gradient

/-- Half and a quarter may be written either way, if both are written in the same way. -/
theorem unchanged_of_half_and_quarter :
    let numbers : Table (Gradient Rat) := ⟨[("b", Exact.bar ⟨[("x1", "0.5"), ("y2", "0.25")]⟩)]⟩
    let percentages := numbers.modify "b" (·.withAttributes ⟨[("x1", "50%"), ("y2", "25%")]⟩)
    resolve? percentages "b" Exact.target = resolve? numbers "b" Exact.target := by
  intro numbers percentages
  have hget : numbers.get? "b" = some (Exact.bar ⟨[("x1", "0.5"), ("y2", "0.25")]⟩) := rfl
  have hunits : GivesUnits (chain numbers "b") .boundingBox := .later rfl .default
  have hsame : SameFractions Rat ⟨[("x1", "0.5"), ("y2", "0.25")]⟩ ⟨[("x1", "50%"), ("y2", "25%")]⟩ := by
    simp only [SameFractions, lineCoordinates, List.forall_mem_cons]
    refine ⟨.inr ⟨"0.5", "50%", rfl, rfl, 1 / 2, ?_, ?_⟩, .inl ⟨rfl, rfl⟩, .inl ⟨rfl, rfl⟩,
      .inr ⟨"0.25", "25%", rfl, rfl, 1 / 4, ?_, ?_⟩, List.forall_mem_nil _⟩
    · exact ⟨by decide +kernel, .inl ⟨by decide, ⟨false, 5, -1⟩, by decide +kernel, by decide +kernel⟩⟩
    · exact ⟨by decide +kernel, .inr ⟨by decide, ⟨false, 50, 0⟩, by decide +kernel, by decide +kernel⟩⟩
    · exact ⟨by decide +kernel, .inl ⟨by decide, ⟨false, 25, -2⟩, by decide +kernel, by decide +kernel⟩⟩
    · exact ⟨by decide +kernel, .inr ⟨by decide, ⟨false, 25, 0⟩, by decide +kernel, by decide +kernel⟩⟩
  have hkeeps : KeepsNumbers Rat ⟨[("x1", "0.5"), ("y2", "0.25")]⟩ := .inl ⟨"0.5", rfl, by decide⟩
  have hrewritten : KeepsNumbers Rat ⟨[("x1", "50%"), ("y2", "25%")]⟩ := by
    have hall : ∀ name ∈ lineCoordinates, ∀ text ∈ (⟨[("x1", "50%"), ("y2", "25%")]⟩ : Attributes).get? name,
        isPercentage (Text.trim text) = true := by decide +kernel
    refine .inr fun name hname text hget value hnumber => ?_
    have hpercentage := hall name hname text hget
    rw [hnumber.1] at hpercentage
    cases hpercentage
  exact unchanged_of_sameFractions hget rfl hunits hsame hkeeps hrewritten Exact.target

/-- One and a hundred percent are not the same where the first coordinate is not given. -/
theorem changed_by_percentage :
    WritesFraction "1" (1 : Rat) ∧ WritesFraction "100%" (1 : Rat) ∧
      (resolve? ⟨[("b", Exact.bar ⟨[("x2", "1")]⟩)]⟩ "b" Exact.target).map (·.geometry) =
        some (.linear ⟨1 / 2, 1⟩ ⟨1 / 2 + 1 / 100, 1⟩) ∧
      (resolve? ⟨[("b", Exact.bar ⟨[("x2", "100%")]⟩)]⟩ "b" Exact.target).map (·.geometry) =
        some (.linear ⟨1 / 2, 1⟩ ⟨1 / 2 + 1, 1⟩) := by
  refine ⟨⟨by decide +kernel, .inl ⟨by decide, ⟨false, 1, 0⟩, by decide +kernel, by decide +kernel⟩⟩,
    ⟨by decide +kernel, .inr ⟨by decide, ⟨false, 100, 0⟩, by decide +kernel, by decide +kernel⟩⟩, ?_, ?_⟩
  · decide +kernel
  · decide +kernel

end Gradient

end SvgPage
