import Mathlib
import SvgPage.Geometry.Arc
import SvgPage.Proofs.Numeric.Measured
import SvgPage.Proofs.Numeric.Ordered

namespace SvgPage

/-- An ellipse in the plane: its center, its radii and the direction of its first axis. -/
structure Ellipse where
  cx : ℝ
  cy : ℝ
  rx : ℝ
  ry : ℝ
  cos : ℝ
  sin : ℝ

namespace Ellipse

/-- Whether a point is on the ellipse: measured along the axes in radii, it is as far as one from the center. -/
def Passes (e : Ellipse) (x y : ℝ) : Prop :=
  ((e.cos * (x - e.cx) + e.sin * (y - e.cy)) / e.rx) ^ 2 +
    ((e.cos * (y - e.cy) - e.sin * (x - e.cx)) / e.ry) ^ 2 = 1

/-- A point is on the ellipse by where it is along the axes. -/
theorem passes_iff {e : Ellipse} (haxis : e.cos ^ 2 + e.sin ^ 2 = 1) {x y along across : ℝ}
    (hx : x = e.cx + e.cos * along - e.sin * across) (hy : y = e.cy + e.sin * along + e.cos * across) :
    e.Passes x y ↔ (along / e.rx) ^ 2 + (across / e.ry) ^ 2 = 1 := by
  have halong : e.cos * (x - e.cx) + e.sin * (y - e.cy) = along := by
    rw [hx, hy]
    linear_combination along * haxis
  have hacross : e.cos * (y - e.cy) - e.sin * (x - e.cx) = across := by
    rw [hx, hy]
    linear_combination across * haxis
  rw [Passes, halong, hacross]

/-- Of two points on the unit circle, half the way from one to the other is not longer than one. -/
theorem half_chord_le {u v u' v' : ℝ} (h : u ^ 2 + v ^ 2 = 1) (h' : u' ^ 2 + v' ^ 2 = 1) :
    ((u - u') / 2) ^ 2 + ((v - v') / 2) ^ 2 ≤ 1 := by
  nlinarith [sq_nonneg (u + u'), sq_nonneg (v + v')]

/-- A vector or its opposite comes to the unit circle when it is moved at a right angle to itself far enough. -/
theorem moved_sq {side u v factor : ℝ} (hside : side ^ 2 = 1)
    (h : factor ^ 2 * (u ^ 2 + v ^ 2) = 1 - (u ^ 2 + v ^ 2)) :
    (side * u - factor * v) ^ 2 + (side * v + factor * u) ^ 2 = 1 := by
  linear_combination (u ^ 2 + v ^ 2) * hside + h

end Ellipse

variable {α : Type} [Scalar α]

namespace EndpointArc

/-- Half the way from the second end point to the first, in the axes of the ellipse. -/
def half (arc : EndpointArc α) : Point α :=
  let cos := Scalar.cos (radians arc.rotation)
  let sin := Scalar.sin (radians arc.rotation)
  let halfX := (arc.x1 - arc.x2) / 2
  let halfY := (arc.y1 - arc.y2) / 2
  ⟨cos * halfX + sin * halfY, -sin * halfX + cos * halfY⟩

/-- The square of how much larger than given the radii have to be. -/
def given (arc : EndpointArc α) : α := stretch arc.half.x arc.half.y (Scalar.abs arc.rx) (Scalar.abs arc.ry)

/-- A radius made large enough. -/
def grow (arc : EndpointArc α) (radius : α) : α := if 1 < arc.given then radius * Scalar.sqrt arc.given else radius

/-- How much larger than given the radii are made. -/
def growth (arc : EndpointArc α) : α := if 1 < arc.given then Scalar.sqrt arc.given else 1

/-- What the end points leave over of the ellipse, in the form in which it is computed. -/
def room (x y rx ry : α) : α := rx * rx * (ry * ry) - rx * rx * y * y - ry * ry * x * x

/-- What the end points take of the ellipse. -/
def reach (x y rx ry : α) : α := rx * rx * y * y + ry * ry * x * x

/-- How far the center is from the middle of the end points, on either side. -/
def root (x y rx ry : α) : α :=
  if room x y rx ry ≤ 0 || reach x y rx ry == 0 then 0 else Scalar.sqrt (room x y rx ry / reach x y rx ry)

/-- The way from the middle of the end points to the center, in the axes of the ellipse. -/
def offset (arc : EndpointArc α) : Point α :=
  let rx := arc.toCenter.rx
  let ry := arc.toCenter.ry
  let factor := arc.centerFactor arc.half.x arc.half.y rx ry
  ⟨factor * rx * arc.half.y / ry, -factor * ry * arc.half.x / rx⟩

theorem centerFactor_eq (arc : EndpointArc α) (x y rx ry : α) :
    arc.centerFactor x y rx ry = if arc.large == arc.sweep then -root x y rx ry else root x y rx ry := rfl

theorem toCenter_radii (arc : EndpointArc α) :
    arc.toCenter.rx = arc.grow (Scalar.abs arc.rx) ∧ arc.toCenter.ry = arc.grow (Scalar.abs arc.ry) := ⟨rfl, rfl⟩

theorem toCenter_center (arc : EndpointArc α) :
    arc.toCenter.cx = Scalar.cos (radians arc.rotation) * arc.offset.x -
        Scalar.sin (radians arc.rotation) * arc.offset.y + (arc.x1 + arc.x2) / 2 ∧
      arc.toCenter.cy = Scalar.sin (radians arc.rotation) * arc.offset.x +
        Scalar.cos (radians arc.rotation) * arc.offset.y + (arc.y1 + arc.y2) / 2 := ⟨rfl, rfl⟩

end EndpointArc

variable [Scalar.Measured α]

open Scalar.Measured

theorem Scalar.Measured.toReal_half (x : α) : toReal (x / 2) = toReal x / 2 := by
  have htwo : toReal (2 : α) = 2 := toReal_ofNat 2
  rw [toReal_div x 2 (by rw [htwo]; exact two_ne_zero), htwo]

namespace Scalar.Measured

variable [Scalar.Exact α]

theorem toReal_neg (x : α) : toReal (-x) = -toReal x := by
  have hsum := congrArg toReal (Scalar.Exact.add_neg x)
  rw [toReal_add, toReal_zero] at hsum
  linarith

theorem le_iff [Scalar.Ordered α] (x y : α) : x ≤ y ↔ toReal x ≤ toReal y := by
  have hself (z : α) : (z == z) = true := (Scalar.Exact.beq_iff_eq z z).2 rfl
  have hlt := Scalar.Ordered.lt_iff y x
  rw [lt_iff] at hlt
  rw [← not_lt, hlt, not_and_not_right]
  exact ⟨fun h _ => h, fun h => (Scalar.Ordered.le_total x y (hself x) (hself y)).elim id h⟩

end Scalar.Measured

namespace CenterArc

/-- The ellipse that an arc is a part of. -/
def ellipse (arc : CenterArc α) : Ellipse where
  cx := toReal arc.cx
  cy := toReal arc.cy
  rx := toReal arc.rx
  ry := toReal arc.ry
  cos := toReal (Scalar.cos arc.rotation)
  sin := toReal (Scalar.sin arc.rotation)

/-- The points of an arc are on its ellipse. -/
theorem passes_point {arc : CenterArc α} {angle : α} (hrx : toReal arc.rx ≠ 0) (hry : toReal arc.ry ≠ 0)
    (haxis : toReal (Scalar.cos arc.rotation) ^ 2 + toReal (Scalar.sin arc.rotation) ^ 2 = 1)
    (hangle : toReal (Scalar.cos angle) ^ 2 + toReal (Scalar.sin angle) ^ 2 = 1) :
    arc.ellipse.Passes (toReal (arc.point angle).x) (toReal (arc.point angle).y) := by
  have hx : toReal (arc.point angle).x = arc.ellipse.cx + arc.ellipse.cos * toReal (arc.rx * Scalar.cos angle) -
      arc.ellipse.sin * toReal (arc.ry * Scalar.sin angle) := by
    simp only [point, ellipse, toReal_add, toReal_sub, toReal_mul]
  have hy : toReal (arc.point angle).y = arc.ellipse.cy + arc.ellipse.sin * toReal (arc.rx * Scalar.cos angle) +
      arc.ellipse.cos * toReal (arc.ry * Scalar.sin angle) := by
    simp only [point, ellipse, toReal_add, toReal_mul]
  rw [Ellipse.passes_iff haxis hx hy, toReal_mul, toReal_mul]
  change (toReal arc.rx * _ / toReal arc.rx) ^ 2 + (toReal arc.ry * _ / toReal arc.ry) ^ 2 = 1
  rwa [mul_div_cancel_left₀ _ hrx, mul_div_cancel_left₀ _ hry]

end CenterArc

namespace EndpointArc

variable {arc : EndpointArc α}

/-- Whether there is a place for the ellipse that the arc is given with in which it passes through both end points. -/
def CanSpan (arc : EndpointArc α) : Prop :=
  ∃ e : Ellipse, e.rx = |toReal arc.rx| ∧ e.ry = |toReal arc.ry| ∧
    e.cos = toReal (Scalar.cos (radians arc.rotation)) ∧ e.sin = toReal (Scalar.sin (radians arc.rotation)) ∧
    e.Passes (toReal arc.x1) (toReal arc.y1) ∧ e.Passes (toReal arc.x2) (toReal arc.y2)

/-- Whether the center is as far from the middle of the end points as the radii ask for. -/
def IsCentered (arc : EndpointArc α) : Prop :=
  let reached := stretch arc.half.x arc.half.y arc.toCenter.rx arc.toCenter.ry
  toReal (arc.centerFactor arc.half.x arc.half.y arc.toCenter.rx arc.toCenter.ry) ^ 2 * toReal reached =
    1 - toReal reached

section Factor

variable {x y rx ry : α}

theorem toReal_stretch (hrx : toReal rx ≠ 0) (hry : toReal ry ≠ 0) :
    toReal (stretch x y rx ry) = (toReal x / toReal rx) ^ 2 + (toReal y / toReal ry) ^ 2 := by
  have hsquare {r : α} (hr : toReal r ≠ 0) : toReal (r * r) ≠ 0 := by
    rw [toReal_mul]
    exact mul_ne_zero hr hr
  rw [stretch, toReal_add, toReal_div _ _ (hsquare hrx), toReal_div _ _ (hsquare hry)]
  simp only [toReal_mul]
  rw [div_pow, div_pow, sq, sq, sq, sq]

theorem toReal_reach (hrx : toReal rx ≠ 0) (hry : toReal ry ≠ 0) :
    toReal (reach x y rx ry) = (toReal rx * toReal ry) ^ 2 * toReal (stretch x y rx ry) := by
  rw [toReal_stretch hrx hry]
  simp only [reach, toReal_add, toReal_mul]
  field_simp
  ring

theorem toReal_room (hrx : toReal rx ≠ 0) (hry : toReal ry ≠ 0) :
    toReal (room x y rx ry) = (toReal rx * toReal ry) ^ 2 * (1 - toReal (stretch x y rx ry)) := by
  rw [toReal_stretch hrx hry]
  simp only [room, toReal_sub, toReal_mul]
  field_simp
  ring

variable [Scalar.Exact α] [Scalar.Ordered α]

/-- The center is as far from the middle of the end points as the radii leave room for. -/
theorem root_sq (hsqrt : ∀ v : α, 0 ≤ toReal v → toReal (Scalar.sqrt v) ^ 2 = toReal v) (hrx : toReal rx ≠ 0)
    (hry : toReal ry ≠ 0) (hpos : 0 < toReal (stretch x y rx ry)) (hone : toReal (stretch x y rx ry) ≤ 1) :
    toReal (root x y rx ry) ^ 2 * toReal (stretch x y rx ry) = 1 - toReal (stretch x y rx ry) := by
  have hscale : 0 < (toReal rx * toReal ry) ^ 2 := pow_two_pos_of_ne_zero (mul_ne_zero hrx hry)
  have hreach : toReal (reach x y rx ry) ≠ 0 := by
    rw [toReal_reach hrx hry]
    exact (mul_pos hscale hpos).ne'
  by_cases hroom : toReal (room x y rx ry) ≤ 0
  · -- There is no room where the radii just reach the end points.
    have hroot : root x y rx ry = 0 := by
      rw [root, decide_eq_true ((le_iff _ _).2 (by rwa [toReal_zero])), Bool.true_or, if_pos rfl]
    have hfull : toReal (stretch x y rx ry) = 1 := by
      rw [toReal_room hrx hry] at hroom
      nlinarith
    rw [hroot, toReal_zero, hfull]
    norm_num
  · have hroot : root x y rx ry = Scalar.sqrt (room x y rx ry / reach x y rx ry) := by
      rw [root, if_neg]
      rw [Bool.or_eq_true, decide_eq_true_iff, le_iff, toReal_zero, Scalar.Exact.beq_iff_eq]
      exact not_or.2 ⟨hroom, fun hzero => hreach (by rw [hzero, toReal_zero])⟩
    have hquotient : toReal (room x y rx ry / reach x y rx ry) =
        (1 - toReal (stretch x y rx ry)) / toReal (stretch x y rx ry) := by
      rw [toReal_div _ _ hreach, toReal_room hrx hry, toReal_reach hrx hry, mul_div_mul_left _ _ hscale.ne']
    rw [hroot, hsqrt, hquotient, div_mul_cancel₀ _ hpos.ne']
    rw [hquotient]
    exact div_nonneg (sub_nonneg.2 hone) hpos.le

theorem centerFactor_sq (hsqrt : ∀ v : α, 0 ≤ toReal v → toReal (Scalar.sqrt v) ^ 2 = toReal v) (hrx : toReal rx ≠ 0)
    (hry : toReal ry ≠ 0) (hpos : 0 < toReal (stretch x y rx ry)) (hone : toReal (stretch x y rx ry) ≤ 1) :
    toReal (arc.centerFactor x y rx ry) ^ 2 * toReal (stretch x y rx ry) = 1 - toReal (stretch x y rx ry) := by
  rw [centerFactor_eq]
  split
  · rw [toReal_neg, neg_sq]
    exact root_sq hsqrt hrx hry hpos hone
  · exact root_sq hsqrt hrx hry hpos hone

end Factor

section Growth

theorem toReal_grow (radius : α) : toReal (arc.grow radius) = toReal arc.growth * toReal radius := by
  rw [grow, growth]
  split
  · rw [toReal_mul, mul_comm]
  · rw [toReal_one, one_mul]

theorem growth_spec
    (hsqrt : ∀ v : α, 0 ≤ toReal v → 0 ≤ toReal (Scalar.sqrt v) ∧ toReal (Scalar.sqrt v) ^ 2 = toReal v) :
    1 ≤ toReal arc.growth ∧ toReal arc.growth ^ 2 = max 1 (toReal arc.given) := by
  rw [growth]
  split
  next hgrows =>
    rw [lt_iff, toReal_one] at hgrows
    obtain ⟨hnonneg, hsquare⟩ := hsqrt arc.given (zero_le_one.trans hgrows.le)
    rw [hsquare, max_eq_right hgrows.le]
    refine ⟨?_, rfl⟩
    nlinarith
  next hfits =>
    rw [lt_iff, toReal_one, not_lt] at hfits
    rw [toReal_one, max_eq_left hfits, one_pow]
    exact ⟨le_refl 1, rfl⟩

variable (hrx : arc.rx ≠ 0) (hry : arc.ry ≠ 0)

include hrx hry

theorem toReal_given :
    toReal arc.given = (toReal arc.half.x / |toReal arc.rx|) ^ 2 + (toReal arc.half.y / |toReal arc.ry|) ^ 2 := by
  have habs {r : α} (hr : r ≠ 0) : toReal (Scalar.abs r) ≠ 0 := by
    rw [toReal_abs, ne_eq, abs_eq_zero]
    exact ne_zero_iff.1 hr
  rw [given, toReal_stretch (habs hrx) (habs hry), toReal_abs, toReal_abs]

/-- Radii that have grown reach the end points. -/
theorem stretch_toCenter (hgrowth : toReal arc.growth ≠ 0) :
    toReal (stretch arc.half.x arc.half.y arc.toCenter.rx arc.toCenter.ry) =
      toReal arc.given / toReal arc.growth ^ 2 := by
  have hgrown {r : α} (hr : r ≠ 0) : toReal (arc.grow (Scalar.abs r)) ≠ 0 := by
    rw [toReal_grow, toReal_abs]
    exact mul_ne_zero hgrowth (abs_ne_zero.2 (ne_zero_iff.1 hr))
  rw [arc.toCenter_radii.1, arc.toCenter_radii.2, toReal_stretch (hgrown hrx) (hgrown hry), toReal_given hrx hry]
  simp only [toReal_grow, toReal_abs]
  field_simp

end Growth

section Ends

theorem toReal_half_x : toReal arc.half.x =
    toReal (Scalar.cos (radians arc.rotation)) * ((toReal arc.x1 - toReal arc.x2) / 2) +
      toReal (Scalar.sin (radians arc.rotation)) * ((toReal arc.y1 - toReal arc.y2) / 2) := by
  simp only [half, toReal_add, toReal_mul, toReal_half, toReal_sub]

theorem toReal_cx : toReal arc.toCenter.cx =
    toReal (Scalar.cos (radians arc.rotation)) * toReal arc.offset.x -
      toReal (Scalar.sin (radians arc.rotation)) * toReal arc.offset.y + (toReal arc.x1 + toReal arc.x2) / 2 := by
  simp only [arc.toCenter_center.1, toReal_add, toReal_mul, toReal_half, toReal_sub]

theorem toReal_cy : toReal arc.toCenter.cy =
    toReal (Scalar.sin (radians arc.rotation)) * toReal arc.offset.x +
      toReal (Scalar.cos (radians arc.rotation)) * toReal arc.offset.y + (toReal arc.y1 + toReal arc.y2) / 2 := by
  simp only [arc.toCenter_center.2, toReal_add, toReal_mul, toReal_half]

variable [Scalar.Exact α]

theorem toReal_half_y : toReal arc.half.y =
    toReal (Scalar.cos (radians arc.rotation)) * ((toReal arc.y1 - toReal arc.y2) / 2) -
      toReal (Scalar.sin (radians arc.rotation)) * ((toReal arc.x1 - toReal arc.x2) / 2) := by
  simp only [half, toReal_add, toReal_mul, toReal_neg, toReal_half, toReal_sub]
  ring

/-- An ellipse that passes through both end points is large enough for the way between them. -/
theorem given_le_one_of_canSpan (hrx : arc.rx ≠ 0) (hry : arc.ry ≠ 0) (h : arc.CanSpan) : toReal arc.given ≤ 1 := by
  obtain ⟨e, herx, hery, hecos, hesin, hfirst, hsecond⟩ := h
  have hchord := Ellipse.half_chord_le hfirst hsecond
  rw [toReal_given hrx hry, toReal_half_x, toReal_half_y, ← herx, ← hery, ← hecos, ← hesin]
  refine (le_of_eq ?_).trans hchord
  ring

variable (haxis : toReal (Scalar.cos (radians arc.rotation)) ^ 2 + toReal (Scalar.sin (radians arc.rotation)) ^ 2 = 1)

include haxis

/-- Between two points that are not the same there is some way. -/
theorem given_pos (hrx : arc.rx ≠ 0) (hry : arc.ry ≠ 0) (hends : arc.x1 ≠ arc.x2 ∨ arc.y1 ≠ arc.y2) :
    0 < toReal arc.given := by
  have hlength : toReal arc.half.x ^ 2 + toReal arc.half.y ^ 2 =
      ((toReal arc.x1 - toReal arc.x2) / 2) ^ 2 + ((toReal arc.y1 - toReal arc.y2) / 2) ^ 2 := by
    rw [toReal_half_x, toReal_half_y]
    linear_combination
      (((toReal arc.x1 - toReal arc.x2) / 2) ^ 2 + ((toReal arc.y1 - toReal arc.y2) / 2) ^ 2) * haxis
  have hapart {v w : α} (h : v ≠ w) : 0 < ((toReal v - toReal w) / 2) ^ 2 :=
    pow_two_pos_of_ne_zero (div_ne_zero (sub_ne_zero.2 (toReal_injective.ne h)) two_ne_zero)
  have hpositive : 0 < toReal arc.half.x ^ 2 + toReal arc.half.y ^ 2 := by
    rw [hlength]
    obtain hx | hy := hends
    · exact add_pos_of_pos_of_nonneg (hapart hx) (sq_nonneg _)
    · exact add_pos_of_nonneg_of_pos (sq_nonneg _) (hapart hy)
  rw [toReal_given hrx hry, div_pow, div_pow, sq_abs, sq_abs]
  have hrx2 : 0 < toReal arc.rx ^ 2 := pow_two_pos_of_ne_zero (ne_zero_iff.1 hrx)
  have hry2 : 0 < toReal arc.ry ^ 2 := pow_two_pos_of_ne_zero (ne_zero_iff.1 hry)
  by_cases hx : toReal arc.half.x = 0
  · rw [hx, zero_pow two_ne_zero, zero_add] at hpositive
    exact add_pos_of_nonneg_of_pos (div_nonneg (sq_nonneg _) hrx2.le) (div_pos hpositive hry2)
  · exact add_pos_of_pos_of_nonneg (div_pos (pow_two_pos_of_ne_zero hx) hrx2) (div_nonneg (sq_nonneg _) hry2.le)

/-- A point half the way between the end points away from their middle is on the ellipse around the center, if the
    center is as far from the middle as it should be. -/
theorem passes_of_side (hrx : toReal arc.toCenter.rx ≠ 0) (hry : toReal arc.toCenter.ry ≠ 0)
    (hcentered : arc.IsCentered) {side x y : ℝ} (hside : side ^ 2 = 1)
    (hx : x = (toReal arc.x1 + toReal arc.x2) / 2 + side * ((toReal arc.x1 - toReal arc.x2) / 2))
    (hy : y = (toReal arc.y1 + toReal arc.y2) / 2 + side * ((toReal arc.y1 - toReal arc.y2) / 2)) :
    arc.toCenter.ellipse.Passes x y := by
  rw [IsCentered, toReal_stretch hrx hry] at hcentered
  have hoffsetX : toReal arc.offset.x / toReal arc.toCenter.rx =
      toReal (arc.centerFactor arc.half.x arc.half.y arc.toCenter.rx arc.toCenter.ry) *
        (toReal arc.half.y / toReal arc.toCenter.ry) := by
    simp only [offset, toReal_div _ _ hry, toReal_mul]
    field_simp
  have hoffsetY : toReal arc.offset.y / toReal arc.toCenter.ry =
      -(toReal (arc.centerFactor arc.half.x arc.half.y arc.toCenter.rx arc.toCenter.ry) *
        (toReal arc.half.x / toReal arc.toCenter.rx)) := by
    simp only [offset, toReal_div _ _ hrx, toReal_mul, toReal_neg]
    field_simp
  have hplaceX : x = arc.toCenter.ellipse.cx +
      toReal (Scalar.cos (radians arc.rotation)) * (side * toReal arc.half.x - toReal arc.offset.x) -
      toReal (Scalar.sin (radians arc.rotation)) * (side * toReal arc.half.y - toReal arc.offset.y) := by
    have hcx : arc.toCenter.ellipse.cx = _ := toReal_cx
    rw [hx, hcx, toReal_half_x, toReal_half_y]
    linear_combination -side * ((toReal arc.x1 - toReal arc.x2) / 2) * haxis
  have hplaceY : y = arc.toCenter.ellipse.cy +
      toReal (Scalar.sin (radians arc.rotation)) * (side * toReal arc.half.x - toReal arc.offset.x) +
      toReal (Scalar.cos (radians arc.rotation)) * (side * toReal arc.half.y - toReal arc.offset.y) := by
    have hcy : arc.toCenter.ellipse.cy = _ := toReal_cy
    rw [hy, hcy, toReal_half_x, toReal_half_y]
    linear_combination -side * ((toReal arc.y1 - toReal arc.y2) / 2) * haxis
  refine (Ellipse.passes_iff haxis hplaceX hplaceY).2 ?_
  have hmoved := Ellipse.moved_sq hside hcentered
  change ((_ - _) / toReal arc.toCenter.rx) ^ 2 + ((_ - _) / toReal arc.toCenter.ry) ^ 2 = 1
  rwa [sub_div, sub_div, hoffsetX, hoffsetY, sub_neg_eq_add, mul_div_assoc, mul_div_assoc]

end Ends

/-- Of an arc between two points with radii that are not zero, both points are on the ellipse around the center that
    is found, whatever the flags are. Its radii are those that are given, made larger by one factor, and they are left
    as they are exactly if an ellipse with them can pass through both points. -/
theorem ellipse_toCenter [Scalar.Exact α] [Scalar.Ordered α] (arc : EndpointArc α)
    (haxis : toReal (Scalar.cos (radians arc.rotation)) ^ 2 + toReal (Scalar.sin (radians arc.rotation)) ^ 2 = 1)
    (hsqrt : ∀ v : α, 0 ≤ toReal v → 0 ≤ toReal (Scalar.sqrt v) ∧ toReal (Scalar.sqrt v) ^ 2 = toReal v)
    (hends : arc.x1 ≠ arc.x2 ∨ arc.y1 ≠ arc.y2) (hrx : arc.rx ≠ 0) (hry : arc.ry ≠ 0) :
    arc.toCenter.ellipse.Passes (toReal arc.x1) (toReal arc.y1) ∧
      arc.toCenter.ellipse.Passes (toReal arc.x2) (toReal arc.y2) ∧
      ∃ factor : ℝ, 1 ≤ factor ∧ arc.toCenter.ellipse.rx = |toReal arc.rx| * factor ∧
        arc.toCenter.ellipse.ry = |toReal arc.ry| * factor ∧ (factor = 1 ↔ arc.CanSpan) := by
  obtain ⟨hgrowth, hsquare⟩ := growth_spec hsqrt
  have hnonzero : toReal arc.growth ≠ 0 := (zero_lt_one.trans_le hgrowth).ne'
  have hgrownX : toReal arc.toCenter.rx = |toReal arc.rx| * toReal arc.growth := by
    rw [arc.toCenter_radii.1, toReal_grow, toReal_abs, mul_comm]
  have hgrownY : toReal arc.toCenter.ry = |toReal arc.ry| * toReal arc.growth := by
    rw [arc.toCenter_radii.2, toReal_grow, toReal_abs, mul_comm]
  have hradiusX : toReal arc.toCenter.rx ≠ 0 := by
    rw [hgrownX]
    exact mul_ne_zero (abs_ne_zero.2 (ne_zero_iff.1 hrx)) hnonzero
  have hradiusY : toReal arc.toCenter.ry ≠ 0 := by
    rw [hgrownY]
    exact mul_ne_zero (abs_ne_zero.2 (ne_zero_iff.1 hry)) hnonzero
  have hpos := given_pos haxis hrx hry hends
  have hreached := stretch_toCenter hrx hry hnonzero
  have hcentered : arc.IsCentered := by
    refine centerFactor_sq (fun v hv => (hsqrt v hv).2) hradiusX hradiusY ?_ ?_
    · rw [hreached]
      exact div_pos hpos (pow_two_pos_of_ne_zero hnonzero)
    · rw [hreached, hsquare]
      exact div_le_one_of_le₀ (le_max_right _ _) (zero_le_one.trans (le_max_left _ _))
  have hfirst : arc.toCenter.ellipse.Passes (toReal arc.x1) (toReal arc.y1) :=
    passes_of_side haxis hradiusX hradiusY hcentered (one_pow 2) (by ring) (by ring)
  have hsecond : arc.toCenter.ellipse.Passes (toReal arc.x2) (toReal arc.y2) :=
    passes_of_side haxis hradiusX hradiusY hcentered neg_one_sq (by ring) (by ring)
  refine ⟨hfirst, hsecond, toReal arc.growth, hgrowth, hgrownX, hgrownY, fun hsame => ?_, fun hspan => ?_⟩
  · rw [hsame, mul_one] at hgrownX hgrownY
    exact ⟨arc.toCenter.ellipse, hgrownX, hgrownY, rfl, rfl, hfirst, hsecond⟩
  · rw [max_eq_left (given_le_one_of_canSpan hrx hry hspan)] at hsquare
    exact (pow_eq_one_iff_of_nonneg (zero_le_one.trans hgrowth) two_ne_zero).1 hsquare

end EndpointArc

instance : Scalar.Ordered RealNumber where
  beq_iff x y := by
    rw [Scalar.Exact.beq_iff_eq, ← RealNumber.toReal_injective.eq_iff]
    exact le_antisymm_iff
  lt_iff x y := lt_iff_le_not_ge (a := x.toReal)
  beq_self_of_le x y _ := ⟨(Scalar.Exact.beq_iff_eq x x).2 rfl, (Scalar.Exact.beq_iff_eq y y).2 rfl⟩
  le_trans x y z := le_trans (a := x.toReal)
  le_total x y _ _ := le_total x.toReal y.toReal

theorem EndpointArc.ellipse_toCenter_grown :
    let arc : EndpointArc RealNumber := ⟨⟨0⟩, ⟨0⟩, ⟨1⟩, ⟨-2⟩, ⟨30⟩, true, false, ⟨10⟩, ⟨0⟩⟩
    toReal (Scalar.cos (radians arc.rotation)) ^ 2 + toReal (Scalar.sin (radians arc.rotation)) ^ 2 = 1 ∧
      (∀ v : RealNumber, 0 ≤ toReal v → 0 ≤ toReal (Scalar.sqrt v) ∧ toReal (Scalar.sqrt v) ^ 2 = toReal v) ∧
      (arc.x1 ≠ arc.x2 ∨ arc.y1 ≠ arc.y2) ∧ arc.rx ≠ 0 ∧ arc.ry ≠ 0 ∧
      arc.toCenter.ellipse.Passes 0 0 ∧ arc.toCenter.ellipse.Passes 10 0 ∧
      ∃ factor : ℝ, 1 ≤ factor ∧ arc.toCenter.ellipse.rx = |1| * factor ∧
        arc.toCenter.ellipse.ry = |(-2)| * factor ∧ (factor = 1 ↔ arc.CanSpan) := by
  intro arc
  have haxis : toReal (Scalar.cos (radians arc.rotation)) ^ 2 + toReal (Scalar.sin (radians arc.rotation)) ^ 2 = 1 :=
    Real.cos_sq_add_sin_sq _
  have hsqrt (v : RealNumber) (hv : 0 ≤ toReal v) :
      0 ≤ toReal (Scalar.sqrt v) ∧ toReal (Scalar.sqrt v) ^ 2 = toReal v :=
    ⟨Real.sqrt_nonneg _, Real.sq_sqrt hv⟩
  have hends : arc.x1 ≠ arc.x2 := by
    refine toReal_injective.ne_iff.1 ?_
    change (0 : ℝ) ≠ 10
    norm_num
  have hrx : arc.rx ≠ 0 := ne_zero_iff.2 one_ne_zero
  have hry : arc.ry ≠ 0 := ne_zero_iff.2 (neg_ne_zero.2 two_ne_zero)
  exact ⟨haxis, hsqrt, .inl hends, hrx, hry, ellipse_toCenter arc haxis hsqrt (.inl hends) hrx hry⟩

end SvgPage
