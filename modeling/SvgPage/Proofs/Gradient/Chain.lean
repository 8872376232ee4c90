import Mathlib.Data.List.Chain
import Mathlib.Data.List.Nodup
import Mathlib.Data.Option.Basic
import Mathlib.Logic.Relation
import SvgPage.Gradient.Resolve
import SvgPage.Proofs.Table

namespace SvgPage.Gradient

variable {α : Type} (gradients : Table (Gradient α))

/-- Whether the gradient with the first id refers to the second id. -/
def Refers (id next : String) : Prop := ∃ gradient, gradients.get? id = some gradient ∧ gradient.href = some next

/-- Whether an id is the given one, or a gradient refers to it that is reached from there. -/
def Reaches (id other : String) : Prop := Relation.ReflTransGen (Refers gradients) id other

/-- The ids under which gradients are found when references are followed from an id on. Those of `visited` count as
    followed already. -/
structure Follows (visited : List String) (id : String) (ids : List String) (found : List (Gradient α)) : Prop where
  found : ids.map gradients.get? = found.map some
  head?_eq : ids.head? = if gradients.contains id = true ∧ id ∉ visited then some id else none
  linked : ids.IsChain (Refers gradients)
  nodup : ids.Nodup
  fresh : ∀ other ∈ ids, other ∉ visited
  closed : ∀ other ∈ ids, ∀ next, Refers gradients other next → gradients.contains next = true →
    next ∈ visited ∨ next ∈ ids

variable {gradients} {visited ids : List String} {id next other : String} {gradient : Gradient α}
  {found : List (Gradient α)}

theorem refers_iff (h : gradients.get? id = some gradient) : Refers gradients id next ↔ gradient.href = some next := by
  simp [Refers, h]

namespace Follows

theorem nil (h : ¬(gradients.contains id = true ∧ id ∉ visited)) : Follows gradients visited id [] [] where
  found := rfl
  head?_eq := (if_neg h).symm
  linked := .nil
  nodup := List.nodup_nil
  fresh := List.forall_mem_nil _
  closed := List.forall_mem_nil _

/-- A gradient that refers to nothing is followed on its own. -/
theorem singleton (hget : gradients.get? id = some gradient) (hvisited : id ∉ visited) (hhref : gradient.href = none) :
    Follows gradients visited id [id] [gradient] where
  found := by simp [hget]
  head?_eq := (if_pos ⟨Table.contains_of_get? hget, hvisited⟩).symm
  linked := .singleton _
  nodup := List.nodup_singleton id
  fresh := List.forall_mem_singleton.2 hvisited
  closed := by
    refine List.forall_mem_singleton.2 fun next hnext => ?_
    rw [refers_iff hget, hhref] at hnext
    cases hnext

/-- A known id that has not been followed before is the first one that is followed. -/
theorem mem_self (h : Follows gradients visited id ids found) (hknown : gradients.contains id = true)
    (hvisited : id ∉ visited) : id ∈ ids := by
  apply List.mem_of_head?
  rw [h.head?_eq, if_pos ⟨hknown, hvisited⟩]

/-- After a gradient comes what it refers to, where the gradient itself has been followed already. -/
theorem cons (h : Follows gradients (id :: visited) next ids found) (hget : gradients.get? id = some gradient)
    (hvisited : id ∉ visited) (hhref : gradient.href = some next) :
    Follows gradients visited id (id :: ids) (gradient :: found) where
  found := by simp [hget, h.found]
  head?_eq := (if_pos ⟨Table.contains_of_get? hget, hvisited⟩).symm
  linked := by
    refine List.isChain_cons.2 ⟨fun first hfirst => ?_, h.linked⟩
    rw [h.head?_eq] at hfirst
    split at hfirst
    · cases hfirst
      exact ⟨gradient, hget, hhref⟩
    · cases hfirst
  nodup := List.nodup_cons.2 ⟨fun hmem => h.fresh id hmem List.mem_cons_self, h.nodup⟩
  fresh := List.forall_mem_cons.2 ⟨hvisited, fun other hmem hother => h.fresh other hmem (.tail _ hother)⟩
  closed := by
    refine List.forall_mem_cons.2 ⟨fun last hlast hknown => ?_, fun other hmem last hlast hknown => ?_⟩
    · rw [refers_iff hget, hhref] at hlast
      cases hlast
      by_cases hseen : next ∈ id :: visited
      · obtain rfl | hrest := List.mem_cons.1 hseen
        · exact .inr List.mem_cons_self
        · exact .inl hrest
      · exact .inr (.tail _ (h.mem_self hknown hseen))
    · obtain hseen | hrest := h.closed other hmem last hlast hknown
      · obtain rfl | hrest := List.mem_cons.1 hseen
        · exact .inr List.mem_cons_self
        · exact .inl hrest
      · exact .inr (.tail _ hrest)

theorem contains (h : Follows gradients visited id ids found) (hmem : other ∈ ids) :
    gradients.contains other = true := by
  have hget : gradients.get? other ∈ found.map some := by
    rw [← h.found]
    exact List.mem_map_of_mem hmem
  obtain ⟨gradient, -, hgradient⟩ := List.mem_map.1 hget
  exact Table.contains_of_get? hgradient.symm

/-- What is followed from an id on, when nothing has been followed before, is all that is reached and known. -/
theorem mem_iff (h : Follows gradients [] id ids found) :
    other ∈ ids ↔ gradients.contains other = true ∧ Reaches gradients id other := by
  constructor
  · intro hmem
    refine ⟨h.contains hmem, h.linked.induction (Reaches gradients id) ids ?_ ?_ other hmem⟩
    · exact fun _ _ hrefers hreaches => hreaches.tail hrefers
    · intro hids
      have hfirst := h.head?_eq
      rw [List.head?_eq_some_head hids] at hfirst
      split at hfirst
      · rw [Option.some.inj hfirst]
        exact .refl
      · cases hfirst
  · rintro ⟨hknown, hreaches⟩
    induction hreaches with
    | refl => exact h.mem_self hknown List.not_mem_nil
    | tail hbefore hlast ih =>
      have ⟨gradient, hget, _⟩ := hlast
      exact (h.closed _ (ih (Table.contains_of_get? hget)) _ hlast hknown).resolve_left List.not_mem_nil

end Follows

/-- References are followed as far as they lead: a chain does not run out of room. -/
theorem follows_chainFrom {room : Nat} (hroom : gradients.size ≤ room + visited.length) (hnodup : visited.Nodup)
    (hknown : ∀ other ∈ visited, gradients.contains other = true) :
    ∃ ids, Follows gradients visited id ids (chainFrom gradients room visited id) := by
  fun_induction chainFrom gradients room visited id with
  | case1 visited id =>
    refine ⟨[], .nil fun ⟨hid, hvisited⟩ => hvisited ?_⟩
    exact Table.mem_of_size_le_length hnodup hknown (by omega) hid
  | case2 visited id room hvisited =>
    exact ⟨[], .nil fun ⟨_, hnew⟩ => hnew (List.contains_iff_mem.1 hvisited)⟩
  | case3 visited id room hvisited hnone =>
    refine ⟨[], .nil fun ⟨hid, _⟩ => ?_⟩
    rw [Table.contains, hnone] at hid
    cases hid
  | case4 room visited id hvisited gradient hget hhref =>
    exact ⟨[id], .singleton hget (fun hmem => hvisited (List.contains_iff_mem.2 hmem)) hhref⟩
  | case5 room visited id hvisited gradient hget next hhref ih =>
    have hnew : id ∉ visited := fun hmem => hvisited (List.contains_iff_mem.2 hmem)
    obtain ⟨ids, hids⟩ := ih (by rw [List.length_cons]; omega) (List.nodup_cons.2 ⟨hnew, hnodup⟩)
      (List.forall_mem_cons.2 ⟨Table.contains_of_get? hget, hknown⟩)
    exact ⟨id :: ids, hids.cons hget hnew hhref⟩

variable (gradients id) in
theorem exists_follows : ∃ ids, Follows gradients [] id ids (chain gradients id) :=
  follows_chainFrom (Nat.le_add_right _ _) List.nodup_nil (List.forall_mem_nil _)

/-- A chain holds the gradients that are reached. -/
theorem mem_chain_iff :
    gradient ∈ chain gradients id ↔ ∃ other, Reaches gradients id other ∧ gradients.get? other = some gradient := by
  obtain ⟨ids, hids⟩ := exists_follows gradients id
  have hmem : gradient ∈ chain gradients id ↔ some gradient ∈ ids.map gradients.get? := by
    rw [hids.found, List.mem_map_of_injective (Option.some_injective _)]
  rw [hmem, List.mem_map]
  refine exists_congr fun other => and_congr_left fun hget => ?_
  rw [hids.mem_iff]
  exact and_iff_right (Table.contains_of_get? hget)

/-- A chain begins with the gradient itself. -/
theorem head?_chain (gradients : Table (Gradient α)) (id : String) :
    (chain gradients id).head? = gradients.get? id := by
  obtain ⟨ids, hids⟩ := exists_follows gradients id
  have hfound := congrArg List.head? hids.found
  rw [List.head?_map, List.head?_map, hids.head?_eq] at hfound
  cases hget : gradients.get? id with
  | none =>
    rw [if_neg fun h => by simp [Table.contains, hget] at h, Option.map_none] at hfound
    exact Option.map_eq_none_iff.1 hfound.symm
  | some gradient =>
    rw [if_pos ⟨Table.contains_of_get? hget, List.not_mem_nil⟩, Option.map_some, hget] at hfound
    obtain ⟨first, hfirst, hsome⟩ := Option.map_eq_some_iff.1 hfound.symm
    rw [hfirst, hsome]

section Modify

variable {β : Type} {change : Gradient α → Gradient α} {view : Gradient α → β}

theorem map_chainFrom_modify (hhref : ∀ gradient, (change gradient).href = gradient.href)
    (hview : ∀ gradient, view (change gradient) = view gradient) (name : String) (room : Nat) (visited : List String)
    (id : String) :
    (chainFrom (gradients.modify name change) room visited id).map view =
      (chainFrom gradients room visited id).map view := by
  have hchanged {id : String} {gradient : Gradient α} (hget : gradients.get? id = some gradient) :
      ∃ changed, (gradients.modify name change).get? id = some changed ∧ changed.href = gradient.href ∧
        view changed = view gradient := by
    rw [Table.get?_modify]
    split
    · exact ⟨change gradient, by rw [hget, Option.map_some], hhref gradient, hview gradient⟩
    · exact ⟨gradient, hget, rfl, rfl⟩
  fun_induction chainFrom gradients room visited id with
  | case1 visited id => rw [chainFrom]
  | case2 visited id room hvisited => rw [chainFrom, if_pos hvisited]
  | case3 visited id room hvisited hnone => simp [chainFrom, Table.get?_modify, hnone]
  | case4 room visited id hvisited gradient hget hlast =>
    obtain ⟨changed, hfound, hsame, hviewed⟩ := hchanged hget
    rw [chainFrom, if_neg hvisited]
    simp [hfound, hsame, hlast, hviewed]
  | case5 room visited id hvisited gradient hget next hnext ih =>
    obtain ⟨changed, hfound, hsame, hviewed⟩ := hchanged hget
    rw [chainFrom, if_neg hvisited]
    simp [hfound, hsame, hnext, hviewed, ih]

/-- What is followed does not depend on what else a gradient declares. -/
theorem map_chain_modify (hhref : ∀ gradient, (change gradient).href = gradient.href)
    (hview : ∀ gradient, view (change gradient) = view gradient) (name id : String) :
    (chain (gradients.modify name change) id).map view = (chain gradients id).map view := by
  have hsize : (gradients.modify name change).size = gradients.size := List.length_map _
  rw [chain, chain, hsize, map_chainFrom_modify hhref hview]

end Modify

/-- The stops of a gradient that can be painted are those of a gradient in the table. -/
theorem exists_of_resolve? [Scalar α] {target : GradientTarget α} {resolved : ResolvedGradient α}
    (h : resolve? gradients id target = some resolved) :
    ∃ id gradient, gradients.get? id = some gradient ∧ ∀ stop ∈ resolved.stops, stop ∈ gradient.stops := by
  obtain ⟨gradient, -, hfound⟩ := Option.bind_eq_some_iff.1 h
  obtain ⟨source, hsource, hresolved⟩ := Option.bind_eq_some_iff.1 hfound
  cases hresolved
  obtain ⟨found, -, hget⟩ := mem_chain_iff.1 (List.mem_of_find?_eq_some hsource)
  exact ⟨found, source, hget, fun stop hstop => List.mem_mergeSort.1 hstop⟩

end SvgPage.Gradient
