import Mathlib
import SvgPage.Drawing.Paint
import SvgPage.Proofs.Css.ClipInsets
import SvgPage.Proofs.Numeric.Measured

namespace SvgPage

open Scalar.Measured

variable {α : Type} [Scalar α]

namespace Box

/-- The box inside insets. Insets that leave nothing give it a negative size. -/
def inside (box : Box α) (insets : Css.ClipInsets α) : Box α :=
  ⟨box.x + insets.left, box.y + insets.top, box.width - insets.left - insets.right,
    box.height - insets.top - insets.bottom⟩

variable [Scalar.Measured α]

/-- The points that the operator for a rectangle covers: with a negative size, those of the mirrored rectangle. -/
def area (box : Box α) : Set (ℝ × ℝ) :=
  Set.uIcc (toReal box.x) (toReal (box.x + box.width)) ×ˢ Set.uIcc (toReal box.y) (toReal (box.y + box.height))

/-- The points of a page that lie in a box given in top-down coordinates. A box of negative size has none. -/
def onPage (box : Box α) (pageHeight : α) : Set (ℝ × ℝ) :=
  Set.Icc (toReal box.x) (toReal (box.x + box.width)) ×ˢ
    Set.Icc (toReal (pageHeight - (box.y + box.height))) (toReal (pageHeight - box.y))

end Box

section Interval

variable {a b c d low high bottom top : ℝ}

theorem interior_uIcc_eq_empty_iff : interior (Set.uIcc a b) = ∅ ↔ a = b := by
  rw [Set.uIcc, interior_Icc, Set.Ioo_eq_empty_iff, inf_lt_sup, not_ne_iff]

theorem interior_inter_of_eq (h : a = b) : interior (Set.Icc a b ∩ Set.Icc low high) = ∅ := by
  rw [← Set.subset_empty_iff, ← interior_uIcc_eq_empty_iff.2 h]
  exact interior_mono (Set.inter_subset_left.trans Set.Icc_subset_uIcc)

/-- An interval whose ends may be exchanged has the same inner points as its part between two limits exactly if its
    ends are equal, or in order and within the limits. -/
theorem interior_uIcc_eq_iff :
    interior (Set.uIcc a b) = interior (Set.Icc a b ∩ Set.Icc low high) ↔ a = b ∨ a < b ∧ low ≤ a ∧ b ≤ high := by
  constructor
  · intro heq
    by_cases hne : a = b
    · exact .inl hne
    rw [Set.uIcc, Set.Icc_inter_Icc, interior_Icc, interior_Icc] at heq
    obtain ⟨hstart, hend⟩ := (Set.Ioo_subset_Ioo_iff (inf_lt_sup.2 hne)).1 heq.subset
    have hle : a ≤ b := le_sup_left.trans (hstart.trans inf_le_right)
    have hlow : low ≤ a := le_sup_right.trans (hstart.trans inf_le_left)
    have hhigh : b ≤ high := le_sup_right.trans (hend.trans inf_le_right)
    exact .inr ⟨lt_of_le_of_ne hle hne, hlow, hhigh⟩
  · rintro (heq | ⟨hlt, hlow, hhigh⟩)
    · rw [interior_uIcc_eq_empty_iff.2 heq, interior_inter_of_eq heq]
    · rw [Set.uIcc_of_le hlt.le, Set.inter_eq_left.2 (Set.Icc_subset_Icc hlow hhigh)]

/-- The same for rectangles: nothing is said about one axis where the other one has no extent. -/
theorem interior_prod_eq_iff :
    interior (Set.uIcc a b ×ˢ Set.uIcc c d) =
        interior ((Set.Icc a b ∩ Set.Icc low high) ×ˢ (Set.Icc c d ∩ Set.Icc bottom top)) ↔
      a = b ∨ c = d ∨ (a < b ∧ low ≤ a ∧ b ≤ high) ∧ c < d ∧ bottom ≤ c ∧ d ≤ top := by
  have hacross := @interior_inter_of_eq a b low high
  have hdown := @interior_inter_of_eq c d bottom top
  rw [interior_prod_eq, interior_prod_eq, Set.prod_eq_prod_iff, interior_uIcc_eq_iff, interior_uIcc_eq_iff,
    interior_uIcc_eq_empty_iff, interior_uIcc_eq_empty_iff]
  tauto

end Interval

namespace Css.ClipInsets

variable [Scalar.Measured α]

/-- Opposite insets meet, along one of the axes at least. -/
def Meet (insets : ClipInsets α) (box : Box α) : Prop :=
  toReal insets.left + toReal insets.right = toReal box.width ∨
    toReal insets.top + toReal insets.bottom = toReal box.height

/-- The insets lie inside a box, and leave something of it. -/
structure Fit (insets : ClipInsets α) (box : Box α) : Prop where
  left : 0 ≤ toReal insets.left
  right : 0 ≤ toReal insets.right
  top : 0 ≤ toReal insets.top
  bottom : 0 ≤ toReal insets.bottom
  across : toReal insets.left + toReal insets.right < toReal box.width
  down : toReal insets.top + toReal insets.bottom < toReal box.height

end Css.ClipInsets

section

variable [Scalar.Measured α]

/-- A rectangle of a box, as it is counted from the bottom of a page. -/
def Box.turned (box : Box α) (pageHeight : α) : Box α :=
  ⟨box.x, pageHeight - box.y - box.height, box.width, box.height⟩

theorem Box.area_turned (box : Box α) (pageHeight : α) : (box.turned pageHeight).area =
    Set.uIcc (toReal box.x) (toReal (box.x + box.width)) ×ˢ
      Set.uIcc (toReal (pageHeight - (box.y + box.height))) (toReal (pageHeight - box.y)) := by
  have hbottom : pageHeight - box.y - box.height = pageHeight - (box.y + box.height) := by
    apply toReal_injective
    simp only [toReal_sub, toReal_add]
    ring
  have htop : pageHeight - (box.y + box.height) + box.height = pageHeight - box.y := by
    apply toReal_injective
    simp only [toReal_sub, toReal_add]
    ring
  rw [area, turned, hbottom, htop]

/-- The rectangle that is written for insets covers the part of the box inside them exactly if opposite insets meet,
    or lie inside the box and leave something of it. Insets below zero and insets that overlap lead beyond it. -/
theorem Box.interior_area_iff (box : Box α) (insets : Css.ClipInsets α) (pageHeight : α) :
    interior ((box.inside insets).turned pageHeight).area =
        interior ((box.inside insets).onPage pageHeight ∩ box.onPage pageHeight) ↔
      insets.Meet box ∨ insets.Fit box := by
  rw [area_turned, onPage, onPage, Set.prod_inter_prod, interior_prod_eq_iff]
  simp only [inside, toReal_add, toReal_sub]
  constructor
  · rintro (hacross | hdown | ⟨⟨hacross, hleft, hright⟩, hdown, hbottom, htop⟩)
    · exact .inl (.inl (by linarith))
    · exact .inl (.inr (by linarith))
    · exact .inr ⟨by linarith, by linarith, by linarith, by linarith, by linarith, by linarith⟩
  · rintro ((hacross | hdown) | ⟨hleft, hright, htop, hbottom, hacross, hdown⟩)
    · exact .inl (by linarith)
    · exact .inr (.inl (by linarith))
    · exact .inr (.inr ⟨⟨by linarith, by linarith, by linarith⟩, by linarith, by linarith, by linarith⟩)

/-- The sides of a clip rectangle are lengths or `auto`, and add one rectangle to the clip path of an element. -/
theorem clipRegion_rectText {setting : Setting α} {style : Style α} {top right bottom left : String}
    {insets : Css.ClipInsets α} (hclip : style.text .clip = Css.rectText top right bottom left)
    (htop : Css.Inset (style.lengthContext setting.options.dpi) top insets.top)
    (hright : Css.Inset (style.lengthContext setting.options.dpi) right insets.right)
    (hbottom : Css.Inset (style.lengthContext setting.options.dpi) bottom insets.bottom)
    (hleft : Css.Inset (style.lengthContext setting.options.dpi) left insets.left)
    (document : Document α) (box : Box α) (ledger : Ledger α) :
    let rectangle := (box.inside insets).turned setting.pageHeight
    (clipRegion setting document style (some box) ledger).1 =
        (clipRegion setting document style none ledger).1 ++ [.rect rectangle, .paint .clip] ∧
      (interior rectangle.area =
          interior ((box.inside insets).onPage setting.pageHeight ∩ box.onPage setting.pageHeight) ↔
        insets.Meet box ∨ insets.Fit box) := by
  have hread := Css.ClipInsets.read?_rectText htop hright hbottom hleft
  refine ⟨?_, box.interior_area_iff insets setting.pageHeight⟩
  rw [clipRegion, clipRegion, hclip, Option.bind_some, Option.bind_none, hread]
  have hadded (shapes : List (Operator α)) : shapes ++ clipInsets setting.pageHeight box insets =
      shapes ++ [] ++ [.rect ((box.inside insets).turned setting.pageHeight), .paint .clip] := by
    rw [List.append_nil]
    rfl
  cases Css.UrlReference.read? (style.text .clipPath) with
  | none => exact hadded _
  | some reference =>
    dsimp only
    cases document.clipPaths.get? reference.id with
    | none => exact hadded _
    | some shapes => exact hadded _

end

namespace Exact

/-- A style that clips to a rectangle. -/
def clipped (value : String) : Style Rat := (Style.initial 16).setText .clip value

/-- A square of ten units. -/
def square : Box Rat := ⟨0, 0, 10, 10⟩

end Exact

theorem clipRegion_inside_square :
    let sides := Css.rectText "1px" "auto" "2" "3pt"
    let insets : Css.ClipInsets Rat := ⟨1, 0, 2, 4⟩
    let rectangle := (Exact.square.inside insets).turned Exact.setting.pageHeight
    (clipRegion Exact.setting (.initial Exact.setting) (Exact.clipped sides) (some Exact.square) {}).1 =
        (clipRegion Exact.setting (.initial Exact.setting) (Exact.clipped sides) none {}).1 ++
          [.rect rectangle, .paint .clip] ∧
      interior rectangle.area =
        interior ((Exact.square.inside insets).onPage Exact.setting.pageHeight ∩
          Exact.square.onPage Exact.setting.pageHeight) := by
  intro sides insets rectangle
  let lengths := (Exact.clipped sides).lengthContext Exact.setting.options.dpi
  have hclip : (Exact.clipped sides).text .clip = sides := rfl
  have htop : Css.Inset lengths "1px" insets.top := .length rfl (by decide +kernel)
  have hbottom : Css.Inset lengths "2" insets.bottom := .length rfl (by decide +kernel)
  have hleft : Css.Inset lengths "3pt" insets.left := .length rfl (by decide +kernel)
  have hright : Css.Inset lengths "auto" insets.right := by
    have hzero : insets.right = Scalar.ofDecimal 0 0 := (ofNat_rat 0).symm
    rw [hzero]
    exact .auto
  obtain ⟨hregion, hinterior⟩ :=
    clipRegion_rectText hclip htop hright hbottom hleft (.initial Exact.setting) Exact.square {}
  refine ⟨hregion, hinterior.2 (.inr ?_)⟩
  constructor <;> norm_num [toReal_rat, Exact.square]

/-- Sides below zero lead out of the box, and sides that overlap cover what lies outside both. -/
theorem clipRegion_beyond_square :
    let region sides :=
      (clipRegion Exact.setting (.initial Exact.setting) (Exact.clipped sides) (some Exact.square) {}).1
    (region "rect(-5px, auto, auto, auto)" = [.rect ⟨0, 90, 10, 15⟩, .paint .clip] ∧
        ¬(⟨0, 90, 10, 15⟩ : Box Rat).area ⊆ Exact.square.onPage 100) ∧
      region "rect(auto, 8px, auto, 8px)" = [.rect ⟨8, 90, -6, 10⟩, .paint .clip] ∧
        (interior (⟨8, 90, -6, 10⟩ : Box Rat).area).Nonempty := by
  refine ⟨⟨by decide +kernel, fun hsubset => ?_⟩, by decide +kernel, ?_⟩
  · have hmem : ((5, 103) : ℝ × ℝ) ∈ (⟨0, 90, 10, 15⟩ : Box Rat).area := by
      rw [Box.area]
      norm_num [toReal_rat]
    have hbox := hsubset hmem
    rw [Box.onPage] at hbox
    norm_num [toReal_rat, Exact.square] at hbox
  · refine ⟨(5, 95), ?_⟩
    rw [Box.area, interior_prod_eq, Set.uIcc, Set.uIcc, interior_Icc, interior_Icc]
    norm_num [toReal_rat]

end SvgPage
