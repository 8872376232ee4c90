import Mathlib.Tactic.Linarith
import SvgPage.Gradient.Resolve
import SvgPage.Proofs.Numeric.Measured

namespace SvgPage

variable {α : Type} [Scalar α]

namespace Gradient.Axis

/-- Where a box begins along an axis. -/
def start (box : Box α) : Axis → α
  | x => box.x
  | y => box.y

/-- How far a box reaches along an axis. -/
def extent (box : Box α) : Axis → α
  | x => box.width
  | y => box.height

end Gradient.Axis

/-- The fraction that a percentage denotes. Percentages below zero and above a hundred are moved there, and a text
    without a number is zero. -/
inductive IsFraction : String → α → Prop
  | within {text decimal} : Numeral.read? text = some (.finite decimal) → ¬(decimal.value : α) < 0 →
      ¬100 < (decimal.value : α) → IsFraction text (decimal.value / 100)
  | below {text decimal} : Numeral.read? text = some (.finite decimal) → (decimal.value : α) < 0 → IsFraction text 0
  | above {text decimal} : Numeral.read? text = some (.finite decimal) → 100 < (decimal.value : α) →
      IsFraction text 1
  | infinite {text negative} : Numeral.read? text = some (.infinite negative) →
      IsFraction text (if negative then 0 else 1)
  | none {text} : Numeral.read? text = none → IsFraction text 0

/-- The coordinate in user space that a text denotes: a percentage of the box, or a length. What is no length is
    zero. -/
inductive GradientTarget.Declares (target : GradientTarget α) (axis : Gradient.Axis) : String → α → Prop
  | percentage {text fraction} : isPercentage text = true → IsFraction text fraction →
      Declares target axis text (axis.start target.box + fraction * axis.extent target.box)
  | length {text value} : isPercentage text = false → Css.Length.read? text 0 target.lengths = some value →
      Declares target axis text value
  | none {text} : isPercentage text = false → Css.Length.read? text 0 target.lengths = none →
      Declares target axis text 0

theorem exists_isFraction (text : String) : ∃ fraction : α, IsFraction text fraction := by
  cases hread : Numeral.read? text with
  | none => exact ⟨0, .none hread⟩
  | some numeral =>
    cases numeral with
    | infinite negative => exact ⟨_, .infinite hread⟩
    | finite decimal =>
      by_cases hbelow : (decimal.value : α) < 0
      · exact ⟨0, .below hread hbelow⟩
      by_cases habove : 100 < (decimal.value : α)
      · exact ⟨1, .above hread habove⟩
      · exact ⟨_, .within hread hbelow habove⟩

theorem GradientTarget.exists_declares (target : GradientTarget α) (axis : Gradient.Axis) (text : String) :
    ∃ value, target.Declares axis text value := by
  cases hpercentage : isPercentage text with
  | true =>
    obtain ⟨fraction, hfraction⟩ : ∃ fraction : α, IsFraction text fraction := exists_isFraction text
    exact ⟨_, .percentage hpercentage hfraction⟩
  | false =>
    cases hread : Css.Length.read? text 0 target.lengths with
    | none => exact ⟨0, .none hpercentage hread⟩
    | some value => exact ⟨value, .length hpercentage hread⟩

section Read

variable [Scalar.Measured α]

open Scalar.Measured

/-- Fractions are read as what they denote. -/
theorem readFraction_eq {text : String} {fraction : α} (h : IsFraction text fraction) :
    readFraction text = fraction := by
  have hhundred : toReal (100 : α) = 100 := toReal_ofNat 100
  unfold readFraction
  cases h with
  | none hread => simp only [hread]
  | infinite hread => simp only [hread]
  | @within decimal hread hbelow habove =>
    rw [lt_iff, toReal_zero, not_lt] at hbelow
    rw [lt_iff, hhundred, not_lt] at habove
    simp only [hread]
    apply toReal_injective
    rw [toReal_clamp, toReal_percent, max_eq_left (by linarith), min_eq_left (by linarith)]
  | @below decimal hread hbelow =>
    rw [lt_iff, toReal_zero] at hbelow
    simp only [hread]
    apply toReal_injective
    rw [toReal_clamp, toReal_percent, toReal_zero, max_eq_right (by linarith), min_eq_left zero_le_one]
  | @above decimal hread habove =>
    rw [lt_iff, hhundred] at habove
    simp only [hread]
    apply toReal_injective
    rw [toReal_clamp, toReal_percent, toReal_one, max_eq_left (by linarith), min_eq_right (by linarith)]

variable {reading : Gradient.Reading α} {axis : Gradient.Axis} {name : String} {value : α}

/-- Coordinates in user space are read as they are declared. -/
theorem Gradient.Reading.coordinate_eq (hmode : reading.mode = .measure) (hspace : reading.userSpace = true)
    (h : reading.target.Declares axis (reading.value name) value) : reading.coordinate name axis = value := by
  have hmeasure : ¬(reading.mode == .percentage) = true := by
    rw [hmode]
    exact Bool.false_ne_true
  unfold coordinate
  cases h with
  | percentage hpercentage hfraction =>
    simp only [hpercentage, if_true, hspace, readFraction_eq hfraction]
    cases axis with
    | x => rfl
    | y => rfl
  | length hpercentage hread => simp [hpercentage, hmeasure, hread]
  | none hpercentage hread => simp [hpercentage, hmeasure, hread]

end Read

end SvgPage
