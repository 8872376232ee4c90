import SvgPage.Proofs.Element.Alike
import SvgPage.Proofs.Element.Merge
import SvgPage.Proofs.Numeric.Laws
import SvgPage.Proofs.Text.Blank

namespace SvgPage

open Attributes

variable {α : Type} [Scalar α]

namespace Text

/-- In front of other characters a number sign keeps those at the start. -/
theorem trim_hash (s : String) : trim ("#" ++ s) = "#" ++ trimEnd s := by
  have hlist : ("#" ++ s).toList = '#' :: s.toList := String.toList_append
  apply String.toList_injective
  rw [toList_trim hlist (by decide), String.toList_append, trimEnd, String.toList_ofList, String.toList_ofList]
  rfl

end Text

/-- A link to an id is read as the id without the white space at its end. -/
theorem Css.readLink?_hash {id : String} (hnonempty : Text.trimEnd id ≠ "") :
    readLink? ("#" ++ id) = some (Text.trimEnd id) := by
  have hlist : ("#" ++ Text.trimEnd id).toList = '#' :: (Text.trimEnd id).toList := String.toList_append
  obtain ⟨c, rest, hid⟩ := List.exists_cons_of_ne_nil (mt String.toList_eq_nil_iff.1 hnonempty)
  rw [readLink?, Text.trim_hash, hlist, hid]
  change some (String.ofList (c :: rest)) = _
  rw [← hid, String.ofList_toList]

namespace Use

theorem joinGiven_none (separator : String) (parts : List (Option String)) :
    joinGiven separator (none :: parts) = joinGiven separator parts := rfl

theorem joinGiven_append_none (separator : String) (part : Option String) :
    joinGiven separator [part, none] = joinGiven separator [part] := by
  simp only [joinGiven, List.filterMap_cons, List.filterMap_nil, Option.filter_none]

theorem joinGiven_singleton (separator : String) (part : Option String) :
    joinGiven separator [part] = (part.filter fun text => !text.isEmpty).getD "" := by
  rw [joinGiven]
  cases hpart : part.filter fun text => !text.isEmpty with
  | none => rw [List.filterMap_cons_none hpart, List.filterMap_nil, String.intercalate_nil, Option.getD_none]
  | some text =>
    rw [List.filterMap_cons_some hpart, List.filterMap_nil, String.intercalate_singleton, Option.getD_some]

/-- A value that is there already is not changed where it is set again, or left out for being empty. -/
theorem get?_setGiven_own {merged : Attributes} {name : String} {own : Option String}
    (h : merged.get? name = own) (other : String) :
    (setGiven name ((own.filter fun text => !text.isEmpty).getD "") merged).get? other =
      merged.get? other := by
  cases hgiven : own.filter fun text => !text.isEmpty with
  | none => rfl
  | some text =>
    obtain ⟨hown, hnonempty⟩ := Option.filter_eq_some_iff.1 hgiven
    rw [Bool.not_eq_true'] at hnonempty
    rw [Option.getD_some, setGiven, hnonempty, if_neg Bool.false_ne_true, Table.get?_set]
    split
    next hother => rw [hother, h, hown]
    · rfl

section Unmoved

variable {use : Attributes} {other : String}

omit [Scalar α] in
theorem get?_sized_own (h : use.get? other = none) (merged : Attributes) (dimension : String) :
    (sized use merged dimension).get? other = merged.get? other := by
  by_cases hdimension : other = dimension
  · rw [sized, ← hdimension, h]
  · exact get?_sized hdimension use merged

omit [Scalar α] in
theorem get?_styled_own {merged element : Attributes} (h : use.get? other = none)
    (hmerged : ∀ name, use.get? name = none → name ∉ droppedAttributes → merged.get? name = element.get? name) :
    (setGiven "style" (joinGiven ";" [element.get? "style", use.get? "style"]) merged).get? other =
      merged.get? other := by
  by_cases hstyle : other = "style"
  · subst hstyle
    rw [h, joinGiven_append_none, joinGiven_singleton]
    exact get?_setGiven_own (hmerged "style" h (by decide)) "style"
  · exact get?_setGiven hstyle _ _

variable (hx : use.get? "x" = none) (hy : use.get? "y" = none)
include hx hy

/-- A `use` without lengths moves nothing. -/
theorem shift?_eq_none [Scalar.Comparable α] : shift? α use = none := by
  have hzero : ((0 : α) != 0) = false := by
    rw [bne, Scalar.Comparable.zero_beq_zero, Bool.not_true]
  have hoffset {axis : String} (haxis : use.get? axis = none) : readOffset α use axis = 0 := by
    rw [readOffset, haxis, Option.bind_none, Option.getD_none]
  simp only [shift?, hoffset hx, hoffset hy, hzero, Bool.or_false, Bool.false_eq_true, if_false]

/-- An element that a `use` stands for that does not move it has all its attributes that the `use` does not
    have. -/
theorem get?_merge_own [Scalar.Comparable α] (htransform : use.get? "transform" = none)
    (hdropped : other ∉ droppedAttributes) (hother : use.get? other = none) (name : String)
    (element : Attributes) : (merge α name element use).2.get? other = element.get? other := by
  have hmoved {axis : String} (haxis : use.get? axis = none) (merged : Attributes) :
      addOffset α axis element use merged = merged := by
    rw [addOffset, Table.contains, haxis, Option.isSome_none, if_neg Bool.false_ne_true]
  have htransformed (other : String) := get?_setGiven_own (get?_replaced htransform (by decide) element) other
  have hown (other : String) (h : use.get? other = none) (hdropped : other ∉ droppedAttributes) :=
    (htransformed other).trans (get?_replaced h hdropped element)
  have hstyled := (get?_styled_own hother hown).trans (hown other hother hdropped)
  simp only [merge, hmoved hx, hmoved hy, ite_self, shift?_eq_none hx hy, htransform, List.foldl_cons,
    List.foldl_nil, joinGiven_none, joinGiven_singleton]
  generalize ElementKind.ofName (if localName name == "symbol" then "svg" else name) = kind
  by_cases hkind : (kind == .svg) = true
  · rw [if_pos hkind]
    exact (get?_sized_own hother _ "height").trans ((get?_sized_own hother _ "width").trans hstyled)
  · rw [if_neg hkind]
    exact hstyled

end Unmoved

/-- A `use` that does no more than refer to an element. -/
def reference (id : String) : Attributes := ⟨[("href", "#" ++ id)]⟩

theorem href?_reference (id : String) : (reference id).href? = some ("#" ++ id) := rfl

theorem get?_reference {id name : String} (h : name ≠ "href") : (reference id).get? name = none := by
  rw [Table.get?, reference, List.lookup_cons, beq_eq_false_iff_ne.2 h, List.lookup_nil]

/-- An element that such a `use` stands for is the element without its id. -/
theorem merge_reference [Scalar.Comparable α] {name : String} (hname : ElementKind.ofName name ≠ .symbol)
    (id : String) (attributes : Attributes) :
    (merge α name attributes (reference id)).1 = name ∧
      Alike (merge α name attributes (reference id)).2 (attributes.erase "id") := by
  refine ⟨name_merge hname attributes _, fun other hother => ?_⟩
  have hnone {other : String} (hother : other ∉ droppedAttributes) : (reference id).get? other = none := by
    apply get?_reference
    rintro rfl
    exact hother (by decide)
  have hid : other ≠ "id" := by
    rintro rfl
    exact hother (by decide)
  rw [get?_merge_own (hnone (by decide)) (hnone (by decide)) (hnone (by decide)) hother (hnone hother),
    Table.get?_erase, if_neg hid]

end Use

end SvgPage
