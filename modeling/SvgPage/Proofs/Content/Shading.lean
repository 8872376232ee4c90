import SvgPage.Content.Resource
import SvgPage.Proofs.Color.Read
import SvgPage.Proofs.Numeric.UnitInterval

namespace SvgPage

open Scalar (IsAlpha)

variable {α : Type}

/-- The colors between which a function leads, from the first number of each of its parts to the last. -/
def ShadingFunction.parts : ShadingFunction α → List (DeviceColor α × DeviceColor α)
  | interpolation first last => [(first, last)]
  | stitching parts _ => parts

variable [Scalar α]

/-- A color of a space, with components between zero and one. -/
structure DeviceColor.Fits (space : ColorSpace) (color : DeviceColor α) : Prop where
  space : color.space = space
  inRange : color.InRange

/-- All colors of a shading are colors of its space. -/
def Shading.Fits (shading : Shading α) : Prop :=
  ∀ part ∈ shading.function.parts, part.1.Fits shading.space ∧ part.2.Fits shading.space

/-- The colors of stops have components between zero and one. -/
def GradientStop.InRange (stops : List (GradientStop α)) : Prop := ∀ stop ∈ stops, stop.color.InRange

namespace DeviceColor

variable {color : DeviceColor α}

theorem space_toRgb (color : DeviceColor α) : color.toRgb.space = .rgb := by
  cases color <;> rfl

/-- Red, green and blue are what ink leaves of the light, so they do not leave their range. -/
theorem InRange.toRgb [Scalar.Bounded α] [Scalar.Complemented α] (h : color.InRange) : color.toRgb.InRange := by
  have hleft {ink black : α} (hink : IsAlpha ink) (hblack : IsAlpha black) : IsAlpha ((1 - ink) * (1 - black)) :=
    Scalar.Bounded.isAlpha_mul (Scalar.Complemented.isAlpha_one_sub hink) (Scalar.Complemented.isAlpha_one_sub hblack)
  cases color with
  | rgb red green blue => exact h
  | gray level =>
    have hlevel : IsAlpha level := h level List.mem_cons_self
    simp only [InRange, DeviceColor.toRgb, components, List.forall_mem_cons]
    exact ⟨hlevel, hlevel, hlevel, List.forall_mem_nil _⟩
  | cmyk cyan magenta yellow black =>
    simp only [InRange, components, List.forall_mem_cons] at h
    obtain ⟨hcyan, hmagenta, hyellow, hblack, -⟩ := h
    simp only [InRange, DeviceColor.toRgb, components, List.forall_mem_cons]
    exact ⟨hleft hcyan hblack, hleft hmagenta hblack, hleft hyellow hblack, List.forall_mem_nil _⟩

end DeviceColor

namespace Shading

variable {stops : List (GradientStop α)}

/-- The stops at the ends have colors of other stops. -/
theorem inRange_padStops {first last : GradientStop α} (hfirst : first ∈ stops) (hlast : last ∈ stops)
    (h : GradientStop.InRange stops) : GradientStop.InRange (padStops first last stops) := by
  refine List.forall_mem_append.2 ⟨List.forall_mem_append.2 ⟨?_, h⟩, ?_⟩
  · split
    · exact List.forall_mem_singleton.2 (h first hfirst)
    · exact List.forall_mem_nil _
  · split
    · exact List.forall_mem_singleton.2 (h last hlast)
    · exact List.forall_mem_nil _

variable [Scalar.Bounded α] [Scalar.Complemented α]

/-- Whatever the color spaces of the stops are, one of them is that of all afterwards. -/
theorem fits_unifyColors (h : GradientStop.InRange stops) (space : ColorSpace) :
    ∃ common, ∀ stop ∈ unifyColors space stops, stop.color.Fits common := by
  rw [unifyColors]
  split
  next hsame =>
    refine ⟨space, fun stop hmem => ⟨?_, h stop hmem⟩⟩
    exact beq_iff_eq.1 (List.all_eq_true.1 hsame stop hmem)
  next =>
    refine ⟨.rgb, fun stop hmem => ?_⟩
    obtain ⟨before, hbefore, rfl⟩ := List.mem_map.1 hmem
    exact ⟨before.color.space_toRgb, (h before hbefore).toRgb⟩

theorem fits_normalizeStops (h : GradientStop.InRange stops) :
    ∃ common, ∀ stop ∈ normalizeStops stops, stop.color.Fits common := by
  rw [normalizeStops]
  split
  next first last hfirst hlast =>
    exact fits_unifyColors (inRange_padStops (List.mem_of_mem_head? hfirst) (List.mem_of_getLast? hlast) h) _
  next => exact ⟨.gray, List.forall_mem_nil _⟩

omit [Scalar α] [Scalar.Bounded α] [Scalar.Complemented α] in
/-- The parts of a function lead from the color of one stop to that of another one. -/
theorem mem_of_mem_parts {part : DeviceColor α × DeviceColor α} (h : part ∈ (functionOf stops).parts) :
    (∃ stop ∈ stops, stop.color = part.1) ∧ ∃ stop ∈ stops, stop.color = part.2 := by
  unfold functionOf at h
  split at h
  next first last =>
    rw [List.mem_singleton.1 h]
    exact ⟨⟨first, by simp, rfl⟩, last, by simp, rfl⟩
  next =>
    obtain ⟨⟨first, last⟩, hmem, rfl⟩ := List.mem_map.1 h
    obtain ⟨hfirst, hlast⟩ := List.of_mem_zip hmem
    exact ⟨⟨first, hfirst, rfl⟩, last, List.mem_of_mem_drop hlast, rfl⟩

/-- All colors of the shading of a gradient are in the space that it declares. -/
theorem fits_ofGradient? {gradient : ResolvedGradient α} (h : GradientStop.InRange gradient.stops)
    {shading : Shading α} (hshading : ofGradient? gradient = some shading) : shading.Fits := by
  obtain ⟨common, hcommon⟩ := fits_normalizeStops h
  rw [ofGradient?] at hshading
  split at hshading
  next => cases hshading
  next first rest hstops =>
    cases hshading
    rw [hstops] at hcommon
    have hspace : first.color.space = common := (hcommon first List.mem_cons_self).space
    intro part hmem
    obtain ⟨⟨stop, hstop, hleft⟩, stop', hstop', hright⟩ := mem_of_mem_parts hmem
    rw [← hleft, ← hright]
    exact ⟨hspace ▸ hcommon stop hstop, hspace ▸ hcommon stop' hstop'⟩

/-- Black as a level of gray and an ink are both light where they are mixed. -/
example : (ofGradient? ⟨.linear ⟨0, 0⟩ ⟨1, 0⟩, .identity,
      [⟨0, .gray 0, 1⟩, ⟨1, .cmyk 0 1 0.5 0.25, 1⟩]⟩ : Option (Shading Float)).map Shading.function =
    some (.interpolation (.rgb 0 0 0) (.rgb 0.75 0 0.375)) := by
  decide +kernel

end Shading

end SvgPage
