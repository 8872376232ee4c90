import Mathlib
import SvgPage.Proofs.Path.Bounds
import SvgPage.Viewport

namespace SvgPage

open Scalar.Measured

section Plane

variable {α : Type} [Scalar α] [Scalar.Measured α]

/-- Where a map takes the points of the plane. -/
def Matrix.onPlane (m : Matrix α) (p : ℝ × ℝ) : ℝ × ℝ :=
  (toReal m.a * p.1 + toReal m.c * p.2 + toReal m.e, toReal m.b * p.1 + toReal m.d * p.2 + toReal m.f)

theorem Matrix.toReal_apply (m : Matrix α) (x y : α) : (m.apply x y).toReal = m.onPlane (Point.toReal ⟨x, y⟩) := by
  simp only [apply, Point.toReal, onPlane, toReal_add, toReal_mul]

/-- The points of a box that is not of negative size. -/
def Box.region (box : Box α) : Set (ℝ × ℝ) :=
  Set.Icc (toReal box.x) (toReal box.x + toReal box.width) ×ˢ
    Set.Icc (toReal box.y) (toReal box.y + toReal box.height)

/-- The points of a viewport. -/
def Size.region (size : Size α) : Set (ℝ × ℝ) :=
  Set.Icc 0 (toReal size.width) ×ˢ Set.Icc 0 (toReal size.height)

/-- A map that scales all directions alike, by a positive factor. -/
def Matrix.IsUniform (m : Matrix α) : Prop :=
  ∃ factor : ℝ, 0 < factor ∧ ∀ p q, m.onPlane p - m.onPlane q = factor • (p - q)

end Plane

namespace FitScope

/-- The image of a box lies inside the viewport or covers it. -/
def Relates {β : Type} (image viewport : Set β) : FitScope → Prop
  | .meet => image ⊆ viewport
  | .slice => viewport ⊆ image

/-- Along one axis, content is not longer than its viewport, or not shorter. -/
def Compares (length extent : ℝ) : FitScope → Prop
  | .meet => length ≤ extent
  | .slice => extent ≤ length

/-- The one of two factors that is used for both axes. -/
noncomputable def limit (scaleX scaleY : ℝ) : FitScope → ℝ
  | .meet => min scaleX scaleY
  | .slice => max scaleX scaleY

variable (scope : FitScope)

theorem Relates.prod {β γ : Type} {scope : FitScope} {image viewport : Set β} {image' viewport' : Set γ}
    (h : scope.Relates image viewport) (h' : scope.Relates image' viewport') :
    scope.Relates (image ×ˢ image') (viewport ×ˢ viewport') := by
  cases scope with
  | meet => exact Set.prod_mono h h'
  | slice => exact Set.prod_mono h h'

theorem limit_pos {scaleX scaleY : ℝ} (hx : 0 < scaleX) (hy : 0 < scaleY) : 0 < scope.limit scaleX scaleY := by
  cases scope with
  | meet => exact lt_min hx hy
  | slice => exact lt_max_of_lt_left hx

theorem limit_choice (scaleX scaleY : ℝ) :
    scope.limit scaleX scaleY = scaleX ∨ scope.limit scaleX scaleY = scaleY := by
  cases scope with
  | meet => exact min_choice scaleX scaleY
  | slice => exact max_choice scaleX scaleY

/-- With the factor for both axes nothing is longer, or nothing is shorter, than with the factor of its own axis. -/
theorem compares_limit (scaleX scaleY : ℝ) {width height : ℝ} (hwidth : 0 ≤ width) (hheight : 0 ≤ height) :
    scope.Compares (scope.limit scaleX scaleY * width) (scaleX * width) ∧
      scope.Compares (scope.limit scaleX scaleY * height) (scaleY * height) := by
  cases scope with
  | meet =>
    exact ⟨mul_le_mul_of_nonneg_right (min_le_left _ _) hwidth, mul_le_mul_of_nonneg_right (min_le_right _ _) hheight⟩
  | slice =>
    exact ⟨mul_le_mul_of_nonneg_right (le_max_left _ _) hwidth, mul_le_mul_of_nonneg_right (le_max_right _ _) hheight⟩

end FitScope

namespace Alignment

/-- Along one axis, content between two coordinates keeps to the lower end of a viewport, to its middle, with as much
    room on one side as on the other, or to its upper end. -/
def Keeps (low high extent : ℝ) : Alignment → Prop
  | .min => low = 0
  | .mid => low - 0 = extent - high
  | .max => high = extent

/-- The part of the room around content that lies before it. -/
def share : Alignment → ℚ
  | .min => 0
  | .mid => 1 / 2
  | .max => 1

theorem share_mem_Icc (alignment : Alignment) : (alignment.share : ℝ) ∈ Set.Icc (0 : ℝ) 1 := by
  cases alignment <;> norm_num [share]

theorem toReal_offset {α : Type} [Scalar α] [Scalar.Measured α] (room : α) (alignment : Alignment) :
    toReal (ViewportFit.offset room alignment) = alignment.share * toReal room := by
  have htwo : toReal (2 : α) = 2 := toReal_ofNat 2
  cases alignment with
  | min => rw [ViewportFit.offset, toReal_zero, share, Rat.cast_zero, zero_mul]
  | mid =>
    rw [ViewportFit.offset, toReal_div room 2 (by rw [htwo]; exact two_ne_zero), htwo, share]
    push_cast
    ring
  | max => rw [ViewportFit.offset, share, Rat.cast_one, one_mul]

variable (alignment : Alignment)

theorem keeps_share (extent length : ℝ) :
    alignment.Keeps (alignment.share * (extent - length)) (alignment.share * (extent - length) + length) extent := by
  cases alignment with
  | min => rw [Keeps, share, Rat.cast_zero, zero_mul]
  | mid =>
    rw [Keeps, share]
    push_cast
    ring
  | max =>
    rw [Keeps, share]
    push_cast
    ring

/-- Content that is not longer than its viewport lies inside it wherever it is aligned, and content that is not shorter
    covers it. -/
theorem relates_share {scope : FitScope} {extent length : ℝ} (h : scope.Compares length extent) :
    scope.Relates (Set.Icc (alignment.share * (extent - length)) (alignment.share * (extent - length) + length))
      (Set.Icc 0 extent) := by
  obtain ⟨hzero, hone⟩ := alignment.share_mem_Icc
  cases scope with
  | meet =>
    have hroom : 0 ≤ extent - length := sub_nonneg.2 h
    have hbefore : alignment.share * (extent - length) ≤ 1 * (extent - length) :=
      mul_le_mul_of_nonneg_right hone hroom
    exact Set.Icc_subset_Icc (mul_nonneg hzero hroom) (by linarith)
  | slice =>
    have hroom : extent - length ≤ 0 := sub_nonpos.2 h
    have hbefore : 1 * (extent - length) ≤ alignment.share * (extent - length) :=
      mul_le_mul_of_nonpos_right hone hroom
    exact Set.Icc_subset_Icc (mul_nonpos_of_nonneg_of_nonpos hzero hroom) (by linarith)

end Alignment

namespace ViewportFit

variable {α : Type} [Scalar α] [Scalar.Measured α]

/-- A box is taken to the box at the offset, with its size scaled along both axes. -/
theorem image_region (fit : ViewportFit α) (box : Box α) (hx : 0 < toReal fit.scaleX) (hy : 0 < toReal fit.scaleY) :
    (fit.matrix box).onPlane '' box.region =
      Set.Icc (toReal fit.offsetX) (toReal fit.offsetX + toReal fit.scaleX * toReal box.width) ×ˢ
        Set.Icc (toReal fit.offsetY) (toReal fit.offsetY + toReal fit.scaleY * toReal box.height) := by
  have hmap : (fit.matrix box).onPlane =
      Prod.map (toReal fit.scaleX * · + (toReal fit.offsetX - toReal box.x * toReal fit.scaleX))
        (toReal fit.scaleY * · + (toReal fit.offsetY - toReal box.y * toReal fit.scaleY)) := by
    funext p
    simp only [Matrix.onPlane, matrix, toReal_zero, toReal_sub, toReal_mul, zero_mul, add_zero, zero_add, Prod.map]
  rw [hmap, Box.region, Set.prodMap_image_prod, Set.image_affine_Icc' hx, Set.image_affine_Icc' hy]
  congr 2 <;> ring

theorem isUniform_matrix {fit : ViewportFit α} (hpositive : 0 < toReal fit.scaleX) (hsame : fit.scaleX = fit.scaleY)
    (box : Box α) : (fit.matrix box).IsUniform := by
  refine ⟨toReal fit.scaleX, hpositive, fun p q => ?_⟩
  ext
  · simp only [Matrix.onPlane, matrix, toReal_zero, Prod.fst_sub, Prod.smul_fst, smul_eq_mul]
    ring
  · simp only [Matrix.onPlane, matrix, toReal_zero, ← hsame, Prod.snd_sub, Prod.smul_snd, smul_eq_mul]
    ring

/-- A fit that keeps the shape of a box has one factor, and the room that it leaves is shared as the box is aligned. -/
theorem ofBox_keep (viewport : Size α) {box : Box α} (hacross : 0 < toReal box.width) (hdown : 0 < toReal box.height)
    (x y : Alignment) (scope : FitScope) :
    let fit := ofBox viewport box (.keep x y scope)
    toReal fit.scaleX = scope.limit (toReal viewport.width / toReal box.width)
        (toReal viewport.height / toReal box.height) ∧
      fit.scaleX = fit.scaleY ∧
      toReal fit.offsetX = x.share * (toReal viewport.width - toReal fit.scaleX * toReal box.width) ∧
      toReal fit.offsetY = y.share * (toReal viewport.height - toReal fit.scaleX * toReal box.height) := by
  rw [← toReal_div _ _ hacross.ne', ← toReal_div _ _ hdown.ne']
  cases scope with
  | meet =>
    refine ⟨toReal_min _ _, rfl, ?_, ?_⟩
    all_goals simp only [ofBox, Alignment.toReal_offset, toReal_sub, toReal_mul, mul_comm]
  | slice =>
    refine ⟨toReal_max _ _, rfl, ?_, ?_⟩
    all_goals simp only [ofBox, Alignment.toReal_offset, toReal_sub, toReal_mul, mul_comm]

/-- How content between four coordinates lies in a viewport that it is fitted into by one factor, with an alignment for
    each axis. -/
structure Fits (viewport : Size α) (x y : Alignment) (scope : FitScope) (left right top bottom : ℝ) : Prop where
  nonempty : left < right ∧ top < bottom
  relates : scope.Relates (Set.Icc left right ×ˢ Set.Icc top bottom) viewport.region
  fills : left = 0 ∧ right = toReal viewport.width ∨ top = 0 ∧ bottom = toReal viewport.height
  across : x.Keeps left right (toReal viewport.width)
  down : y.Keeps top bottom (toReal viewport.height)

/-- Content fits if it is as long as the viewport along one axis and not longer, or not shorter, along both. -/
theorem fits_of_share (viewport : Size α) (x y : Alignment) {scope : FitScope} {width height : ℝ} (hwidth : 0 < width)
    (hheight : 0 < height) (hfills : width = toReal viewport.width ∨ height = toReal viewport.height)
    (hacross : scope.Compares width (toReal viewport.width)) (hdown : scope.Compares height (toReal viewport.height)) :
    let left := x.share * (toReal viewport.width - width)
    let top := y.share * (toReal viewport.height - height)
    Fits viewport x y scope left (left + width) top (top + height) where
  nonempty := ⟨lt_add_of_pos_right _ hwidth, lt_add_of_pos_right _ hheight⟩
  relates := (x.relates_share hacross).prod (y.relates_share hdown)
  fills := by
    obtain hwidth | hheight := hfills
    · left
      rw [hwidth, sub_self, mul_zero, zero_add]
      exact ⟨rfl, rfl⟩
    · right
      rw [hheight, sub_self, mul_zero, zero_add]
      exact ⟨rfl, rfl⟩
  across := x.keeps_share _ _
  down := y.keeps_share _ _

/-- A box with a size is fitted into a viewport with a size: its image is the viewport where it is stretched. Otherwise
    it is scaled alike in all directions, lies inside the viewport or covers it, fills it along one axis at least, and
    keeps to the ends or to the middle of both axes as it is aligned. -/
theorem fits_viewport {viewport : Size α} {box : Box α} (hwidth : 0 < toReal viewport.width)
    (hheight : 0 < toReal viewport.height) (hacross : 0 < toReal box.width) (hdown : 0 < toReal box.height) :
    ((ofBox viewport box .stretch).matrix box).onPlane '' box.region = viewport.region ∧
      ∀ x y scope, ∃ left right top bottom,
        let m := (ofBox viewport box (.keep x y scope)).matrix box
        m.onPlane '' box.region = Set.Icc left right ×ˢ Set.Icc top bottom ∧ m.IsUniform ∧
          Fits viewport x y scope left right top bottom := by
  have hscaleX : 0 < toReal viewport.width / toReal box.width := div_pos hwidth hacross
  have hscaleY : 0 < toReal viewport.height / toReal box.height := div_pos hheight hdown
  have hlengthX : toReal viewport.width / toReal box.width * toReal box.width = toReal viewport.width :=
    div_mul_cancel₀ _ hacross.ne'
  have hlengthY : toReal viewport.height / toReal box.height * toReal box.height = toReal viewport.height :=
    div_mul_cancel₀ _ hdown.ne'
  constructor
  · have hstretchX : toReal (ofBox viewport box .stretch).scaleX = toReal viewport.width / toReal box.width :=
      toReal_div _ _ hacross.ne'
    have hstretchY : toReal (ofBox viewport box .stretch).scaleY = toReal viewport.height / toReal box.height :=
      toReal_div _ _ hdown.ne'
    rw [image_region _ box (hstretchX ▸ hscaleX) (hstretchY ▸ hscaleY), hstretchX, hstretchY, hlengthX, hlengthY]
    simp only [ofBox, toReal_zero, zero_add, Size.region]
  intro x y scope
  obtain ⟨hscale, hsame, hleft, htop⟩ := ofBox_keep viewport hacross hdown x y scope
  have hpositive : 0 < toReal (ofBox viewport box (.keep x y scope)).scaleX :=
    hscale ▸ scope.limit_pos hscaleX hscaleY
  have hcompares := scope.compares_limit (toReal viewport.width / toReal box.width)
    (toReal viewport.height / toReal box.height) hacross.le hdown.le
  have hfills := scope.limit_choice (toReal viewport.width / toReal box.width)
    (toReal viewport.height / toReal box.height)
  rw [hlengthX, hlengthY, ← hscale] at hcompares
  rw [← hscale] at hfills
  have hfits := fits_of_share viewport x y (mul_pos hpositive hacross) (mul_pos hpositive hdown)
    (hfills.imp (fun h => by rw [h, hlengthX]) fun h => by rw [h, hlengthY]) hcompares.1 hcompares.2
  refine ⟨_, _, _, _, ?_, isUniform_matrix hpositive hsame box, hfits⟩
  rw [image_region _ box hpositive (hsame ▸ hpositive), ← hsame, hleft, htop]

/-- A high box in a wide viewport, which it covers down to the lower edge. -/
theorem fits_viewport_slice :
    let viewport : Size Rat := ⟨100, 50⟩
    let box : Box Rat := ⟨10, -20, 40, 80⟩
    let image (ratio : AspectRatio) := ((ofBox viewport box ratio).matrix box).onPlane '' box.region
    (0 < toReal viewport.width ∧ 0 < toReal viewport.height ∧ 0 < toReal box.width ∧ 0 < toReal box.height) ∧
      image .stretch = Set.Icc 0 100 ×ˢ Set.Icc 0 50 ∧
      ∃ left right top bottom, image (.keep .mid .max .slice) = Set.Icc left right ×ˢ Set.Icc top bottom ∧
        Set.Icc 0 100 ×ˢ Set.Icc 0 50 ⊆ Set.Icc left right ×ˢ Set.Icc top bottom ∧
        (left + right) / 2 = 100 / 2 ∧ bottom = 50 := by
  intro viewport box image
  have hwidth : toReal viewport.width = 100 := by norm_num [viewport, toReal_rat]
  have hheight : toReal viewport.height = 50 := by norm_num [viewport, toReal_rat]
  have hpositive : 0 < toReal viewport.width ∧ 0 < toReal viewport.height ∧ 0 < toReal box.width ∧
      0 < toReal box.height := by
    norm_num [viewport, box, toReal_rat]
  obtain ⟨hstretch, hkeep⟩ := fits_viewport hpositive.1 hpositive.2.1 hpositive.2.2.1 hpositive.2.2.2
  obtain ⟨left, right, top, bottom, himage, -, hfits⟩ := hkeep .mid .max .slice
  have hcovers : viewport.region ⊆ Set.Icc left right ×ˢ Set.Icc top bottom := hfits.relates
  have hacross : left - 0 = toReal viewport.width - right := hfits.across
  have hdown : bottom = toReal viewport.height := hfits.down
  rw [Size.region, hwidth, hheight] at hcovers hstretch
  rw [hwidth] at hacross
  exact ⟨hpositive, hstretch, left, right, top, bottom, himage, hcovers, by linarith, hdown.trans hheight⟩

end ViewportFit

end SvgPage
