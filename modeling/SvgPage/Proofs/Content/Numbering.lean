import Mathlib.Data.List.Induction
import Mathlib.Data.List.Nodup
import SvgPage.Content.Resource

namespace SvgPage

variable {α : Type}

/-- The name of a resource where others have been registered before. `earlier` counts them by their kind. -/
def ResourceName.shift (earlier : ResourceKind → Nat) (name : ResourceName) : ResourceName :=
  { name with number := name.number + earlier name.kind }

/-- Different names are written differently. -/
theorem ResourceName.text_injective : Function.Injective ResourceName.text := by
  rintro ⟨kind, number⟩ ⟨kind', number'⟩ htext
  have hchars := congrArg String.toList htext
  simp only [text, String.toList_append] at hchars
  have hlength : kind.stem.toList.length = kind'.stem.toList.length := by
    cases kind <;> cases kind' <;> rfl
  obtain ⟨hstem, hdigits⟩ := List.append_inj hchars hlength
  have hkind : kind = kind' := by
    cases kind <;> cases kind' <;> first | rfl | exact absurd hstem (by decide)
  have hread (number : Nat) : Nat.ofDigitChars 10 (toString number).toList 0 = number := by
    rw [Nat.toString_eq_ofList_toDigits, String.toList_ofList]
    exact Nat.ofDigitChars_toDigits (by decide) (by decide)
  have hnumber : number = number' := by rw [← hread number, hdigits, hread]
  rw [hkind, hnumber]

namespace Operator

/-- An operator where resources have been registered before. `earlier` counts them by their kind. -/
def renumber (earlier : ResourceKind → Nat) : Operator α → Operator α
  | graphicsState number => graphicsState (number + earlier .graphicsState)
  | shading number => shading (number + earlier .shading)
  | image number => image (number + earlier .image)
  | operator => operator

theorem renumber_of_resource?_eq_none {operator : Operator α} (h : operator.resource? = none)
    (earlier : ResourceKind → Nat) : operator.renumber earlier = operator := by
  cases operator <;> first | rfl | cases h

theorem resource?_renumber (operator : Operator α) (earlier : ResourceKind → Nat) :
    (operator.renumber earlier).resource? = operator.resource?.map (ResourceName.shift earlier) := by
  cases operator <;> rfl

theorem renumber_renumber (operator : Operator α) (first second : ResourceKind → Nat) :
    (operator.renumber second).renumber first = operator.renumber fun kind => first kind + second kind := by
  cases operator <;> simp only [renumber, Nat.add_assoc, Nat.add_comm (first _)]

theorem renumber_zero (operator : Operator α) : operator.renumber (fun _ => 0) = operator := by
  cases operator <;> rfl

end Operator

/-- Where none of the operators names a resource there is nothing to number. -/
theorem map_renumber_of_plain {operators : List (Operator α)}
    (h : ∀ operator ∈ operators, operator.resource? = none) (earlier : ResourceKind → Nat) :
    operators.map (Operator.renumber earlier) = operators := by
  have hsame : ∀ operator ∈ operators, operator.renumber earlier = id operator := fun operator hmem =>
    Operator.renumber_of_resource?_eq_none (h operator hmem) earlier
  rw [List.map_congr_left hsame, List.map_id]

/-- Where nothing has been registered before, the numbers are the same. -/
theorem map_renumber_zero (operators : List (Operator α)) : operators.map (Operator.renumber fun _ => 0) = operators :=
  (List.map_congr_left fun operator _ => operator.renumber_zero).trans (List.map_id _)

theorem filterMap_resource?_renumber (operators : List (Operator α)) (earlier : ResourceKind → Nat) :
    (operators.map (Operator.renumber earlier)).filterMap Operator.resource? =
      (operators.filterMap Operator.resource?).map (ResourceName.shift earlier) := by
  rw [List.filterMap_map, List.map_filterMap]
  exact List.filterMap_congr fun operator _ => operator.resource?_renumber earlier

namespace Resource

/-- How many resources of a kind there are. -/
def count (resources : List (Resource α)) (kind : ResourceKind) : Nat :=
  resources.countP fun resource => resource.kind == kind

theorem count_append (first second : List (Resource α)) (kind : ResourceKind) :
    count (first ++ second) kind = count first kind + count second kind := List.countP_append

theorem numberAfter_eq (registered : Array (Resource α)) (kind : ResourceKind) :
    numberAfter registered kind = count registered.toList kind + 1 := by
  rw [numberAfter, count, Array.countP_toList]

theorem length_names (resources : List (Resource α)) : (names resources).length = resources.length := by
  rw [names, List.length_zipWith, List.length_range, Nat.min_self]

theorem getElem?_names (resources : List (Resource α)) (i : Nat) :
    (names resources)[i]? =
      resources[i]?.map fun resource => ⟨resource.kind, count (resources.take i) resource.kind + 1⟩ := by
  by_cases hinside : i < resources.length
  · have hplace : (List.range resources.length)[i]? = some i := by
      rw [List.getElem?_eq_getElem (List.length_range.symm ▸ hinside), List.getElem_range]
    rw [names, List.getElem?_zipWith, hplace, List.getElem?_eq_getElem hinside]
    rfl
  · have hbeyond : resources.length ≤ i := Nat.le_of_not_lt hinside
    rw [List.getElem?_eq_none hbeyond, List.getElem?_eq_none ((length_names resources).symm ▸ hbeyond)]
    rfl

/-- Resources that are registered after others are named as if they were the first, but for their number. -/
theorem names_append (first second : List (Resource α)) :
    names (first ++ second) = names first ++ (names second).map (ResourceName.shift (count first)) := by
  refine List.ext_getElem? fun i => ?_
  rw [getElem?_names]
  by_cases hfirst : i < first.length
  · rw [List.getElem?_append_left hfirst, List.getElem?_append_left ((length_names first).symm ▸ hfirst),
      getElem?_names, List.take_append_of_le_length (Nat.le_of_lt hfirst)]
  · have hbehind : first.length ≤ i := Nat.le_of_not_lt hfirst
    rw [List.getElem?_append_right hbehind, List.getElem?_append_right ((length_names first).symm ▸ hbehind),
      List.getElem?_map, getElem?_names, length_names, Option.map_map, List.take_append,
      List.take_of_length_le hbehind]
    refine Option.map_congr fun resource _ => ?_
    simp only [Function.comp_apply, ResourceName.shift, count_append, ResourceName.mk.injEq, true_and]
    omega

theorem names_singleton (resource : Resource α) : names [resource] = [⟨resource.kind, 1⟩] := rfl

/-- The next resource has the number that it is given when it is registered. -/
theorem names_concat (registered : Array (Resource α)) (resource : Resource α) :
    names (registered.push resource).toList =
      names registered.toList ++ [⟨resource.kind, numberAfter registered resource.kind⟩] := by
  rw [Array.toList_push, names_append, names_singleton, numberAfter_eq, List.map_singleton, ResourceName.shift]
  dsimp only
  rw [Nat.add_comm 1]

/-- The resources of each kind are numbered from one on. -/
theorem map_number_filter_names (resources : List (Resource α)) (kind : ResourceKind) :
    ((names resources).filter fun name => name.kind == kind).map ResourceName.number =
      List.range' 1 (count resources kind) := by
  induction resources using List.reverseRecOn with
  | nil => rfl
  | append_singleton earlier resource ih =>
    rw [names_append, List.filter_append, List.map_append, ih, count_append, names_singleton, List.map_singleton]
    by_cases hkind : resource.kind = kind
    · subst hkind
      have hcount : count [resource] resource.kind = 1 := by
        rw [count, List.countP_singleton, beq_self_eq_true, if_pos rfl]
      rw [hcount, List.range'_concat, Nat.one_mul]
      simp only [ResourceName.shift, List.filter_singleton, beq_self_eq_true, cond_true, List.map_singleton]
    · have hother : (resource.kind == kind) = false := beq_eq_false_iff_ne.2 hkind
      have hcount : count [resource] kind = 0 := by
        rw [count, List.countP_singleton, hother, if_neg Bool.false_ne_true]
      rw [hcount]
      simp only [ResourceName.shift, List.filter_singleton, hother, cond_false, List.map_nil, List.append_nil,
        Nat.add_zero]

theorem number_le_of_mem_names {resources : List (Resource α)} {name : ResourceName} (h : name ∈ names resources) :
    name.number ≤ count resources name.kind := by
  have hnumber : name.number ∈ ((names resources).filter fun other => other.kind == name.kind).map
      ResourceName.number :=
    List.mem_map_of_mem (List.mem_filter.2 ⟨h, beq_self_eq_true name.kind⟩)
  rw [map_number_filter_names, List.mem_range'_1] at hnumber
  omega

/-- No two resources have the same name. -/
theorem nodup_names (resources : List (Resource α)) : (names resources).Nodup := by
  induction resources using List.reverseRecOn with
  | nil => exact List.nodup_nil
  | append_singleton earlier resource ih =>
    rw [names_append, names_singleton, List.map_singleton, List.nodup_append]
    refine ⟨ih, List.nodup_singleton _, ?_⟩
    rintro name hname other hother rfl
    have hle := number_le_of_mem_names hname
    rw [List.mem_singleton.1 hother] at hle
    simp only [ResourceName.shift] at hle
    omega

end Resource

end SvgPage
