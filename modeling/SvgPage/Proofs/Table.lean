import Mathlib.Data.List.Basic
import Mathlib.Data.List.Induction
import Mathlib.Data.List.Nodup
import Mathlib.Data.List.Perm.Subperm
import SvgPage.Table

namespace SvgPage.Table

variable {β : Type}

theorem lookup_setEntry (name other : String) (value : β) (entries : List (String × β)) :
    (setEntry name value entries).lookup other =
      if other = name then some value else entries.lookup other := by
  induction entries with
  | nil =>
    rw [setEntry, List.lookup_cons, List.lookup_nil]
    by_cases hother : other = name
    · rw [beq_iff_eq.2 hother, if_pos hother]
    · rw [beq_eq_false_iff_ne.2 hother, if_neg hother]
  | cons entry rest ih =>
    obtain ⟨key, old⟩ := entry
    rw [setEntry]
    by_cases hkey : key = name
    · subst hkey
      rw [if_pos (beq_iff_eq.2 rfl), List.lookup_cons, List.lookup_cons]
      by_cases hother : other = key
      · rw [beq_iff_eq.2 hother, if_pos hother]
      · rw [beq_eq_false_iff_ne.2 hother, if_neg hother]
    · rw [if_neg (ne_of_eq_of_ne (beq_eq_false_iff_ne.2 hkey) Bool.false_ne_true), List.lookup_cons,
        List.lookup_cons, ih]
      by_cases hother : other = key
      · subst hother
        simp only [beq_self_eq_true, if_neg hkey]
      · rw [beq_eq_false_iff_ne.2 hother]

/-- A table has the value that has been set last under a name. -/
theorem get?_set (t : Table β) (name other : String) (value : β) :
    (t.set name value).get? other = if other = name then some value else t.get? other :=
  lookup_setEntry name other value t.entries

theorem names_setEntry_of_mem {name : String} {value : β} {entries : List (String × β)}
    (h : name ∈ entries.map Prod.fst) :
    (setEntry name value entries).map Prod.fst = entries.map Prod.fst := by
  induction entries with
  | nil => cases h
  | cons entry rest ih =>
    obtain ⟨key, old⟩ := entry
    rw [setEntry]
    by_cases hkey : key = name
    · rw [if_pos (beq_iff_eq.2 hkey)]
      rfl
    · rw [if_neg (ne_of_eq_of_ne (beq_eq_false_iff_ne.2 hkey) Bool.false_ne_true)]
      obtain hname | hrest := List.mem_cons.1 h
      · exact absurd hname.symm hkey
      · rw [List.map_cons, List.map_cons, ih hrest]

/-- A name that is there already keeps its place. -/
theorem names_set_of_mem {t : Table β} {name : String} (h : name ∈ t.names) (value : β) :
    (t.set name value).names = t.names :=
  names_setEntry_of_mem h

theorem length_setEntry_le (name : String) (value : β) (entries : List (String × β)) :
    (setEntry name value entries).length ≤ entries.length + 1 := by
  induction entries with
  | nil => exact Nat.le_refl 1
  | cons entry rest ih =>
    obtain ⟨key, old⟩ := entry
    rw [setEntry]
    split
    · exact Nat.le_succ _
    · exact Nat.succ_le_succ ih

theorem size_set_le (t : Table β) (name : String) (value : β) : (t.set name value).size ≤ t.size + 1 :=
  length_setEntry_le name value t.entries

theorem mem_names_iff {t : Table β} {name : String} : name ∈ t.names ↔ (t.get? name).isSome = true := by
  rw [names, get?, List.mem_map, List.lookup_isSome_iff]
  refine exists_congr fun entry => and_congr_right' ?_
  rw [beq_iff_eq, eq_comm]

theorem mem_names_set {t : Table β} {name other : String} (value : β) :
    other ∈ (t.set name value).names ↔ other = name ∨ other ∈ t.names := by
  rw [mem_names_iff, mem_names_iff, get?_set]
  by_cases hother : other = name
  · rw [if_pos hother]
    exact iff_of_true rfl (.inl hother)
  · rw [if_neg hother]
    exact (or_iff_right hother).symm

theorem names_setEntry_of_notMem {name : String} {value : β} {entries : List (String × β)}
    (h : name ∉ entries.map Prod.fst) :
    (setEntry name value entries).map Prod.fst = entries.map Prod.fst ++ [name] := by
  induction entries with
  | nil => rfl
  | cons entry rest ih =>
    obtain ⟨key, old⟩ := entry
    obtain ⟨hkey, hrest⟩ := not_or.1 (mt List.mem_cons.2 h)
    rw [setEntry, if_neg (ne_of_eq_of_ne (beq_eq_false_iff_ne.2 (Ne.symm hkey)) Bool.false_ne_true), List.map_cons,
      ih hrest]
    rfl

theorem nodup_names_set {t : Table β} (h : t.names.Nodup) (name : String) (value : β) : (t.set name value).names.Nodup := by
  by_cases hname : name ∈ t.names
  · rw [names_set_of_mem hname]
    exact h
  · have hnames : (t.set name value).names = t.names ++ [name] := names_setEntry_of_notMem hname
    rw [hnames, ← List.concat_eq_append]
    exact List.Nodup.concat hname h

theorem contains_of_get? {t : Table β} {name : String} {value : β} (h : t.get? name = some value) :
    t.contains name = true := by
  rw [contains, h, Option.isSome_some]

/-- As many different names as a table has entries are all the names of the table. -/
theorem mem_of_size_le_length {t : Table β} {names : List String} {name : String} (hnodup : names.Nodup)
    (hknown : ∀ known ∈ names, t.contains known = true) (hsize : t.size ≤ names.length)
    (hname : t.contains name = true) : name ∈ names := by
  by_contra hnot
  have hdistinct : (name :: names).Nodup := List.nodup_cons.2 ⟨hnot, hnodup⟩
  have hsubset : name :: names ⊆ t.names := by
    intro other hmem
    apply mem_names_iff.2
    obtain rfl | hrest := List.mem_cons.1 hmem
    · exact hname
    · exact hknown other hrest
  have hlength : (name :: names).length ≤ t.names.length := (List.subperm_of_subset hdistinct hsubset).length_le
  have hentries : t.names.length = t.size := List.length_map _
  rw [List.length_cons] at hlength
  omega

theorem lookup_filter_ne (name other : String) (entries : List (String × β)) :
    (entries.filter fun entry => entry.1 != name).lookup other =
      if other = name then none else entries.lookup other := by
  induction entries with
  | nil => rw [List.filter_nil, List.lookup_nil, ite_self]
  | cons entry rest ih =>
    obtain ⟨key, value⟩ := entry
    by_cases hkey : key = name
    · subst hkey
      rw [List.filter_cons_of_neg (by simp), ih, List.lookup_cons]
      by_cases hother : other = key
      · rw [if_pos hother, if_pos hother]
      · rw [beq_eq_false_iff_ne.2 hother]
    · rw [List.filter_cons_of_pos (by simpa using hkey), List.lookup_cons, List.lookup_cons, ih]
      by_cases hother : other = key
      · subst hother
        simp only [beq_self_eq_true, if_neg hkey]
      · rw [beq_eq_false_iff_ne.2 hother]

/-- A table has no value under a name that has been taken from it. -/
theorem get?_erase (t : Table β) (name other : String) :
    (t.erase name).get? other = if other = name then none else t.get? other :=
  lookup_filter_ne name other t.entries

theorem get?_foldl_erase_of_notMem {names : List String} {other : String} (h : other ∉ names) (t : Table β) :
    (names.foldl erase t).get? other = t.get? other := by
  induction names generalizing t with
  | nil => rfl
  | cons name rest ih =>
    obtain ⟨hname, hrest⟩ := not_or.1 (mt List.mem_cons.2 h)
    rw [List.foldl_cons, ih hrest, get?_erase, if_neg hname]

theorem get?_foldl_erase_of_mem {names : List String} {other : String} (h : other ∈ names) (t : Table β) :
    (names.foldl erase t).get? other = none := by
  induction names generalizing t with
  | nil => cases h
  | cons name rest ih =>
    rw [List.foldl_cons]
    by_cases hrest : other ∈ rest
    · exact ih hrest _
    · have hname := (List.mem_cons.1 h).resolve_right hrest
      rw [get?_foldl_erase_of_notMem hrest, get?_erase, if_pos hname]

/-- Setting entries leaves the values under all other names as they are. -/
theorem get?_setAll_of_notMem {entries : List (String × β)} {other : String}
    (h : other ∉ entries.map Prod.fst) (t : Table β) : (t.setAll entries).get? other = t.get? other := by
  induction entries generalizing t with
  | nil => rfl
  | cons entry rest ih =>
    obtain ⟨hname, hrest⟩ := not_or.1 (mt List.mem_cons.2 h)
    exact (ih hrest _).trans ((get?_set ..).trans (if_neg hname))

theorem setAll_append (t : Table β) (first second : List (String × β)) :
    t.setAll (first ++ second) = (t.setAll first).setAll second :=
  List.foldl_append

/-- Of two values that are set under one name the first one leaves no trace. -/
theorem setEntry_setEntry (name : String) (first second : β) (entries : List (String × β)) :
    setEntry name second (setEntry name first entries) = setEntry name second entries := by
  induction entries with
  | nil => exact if_pos (beq_iff_eq.2 rfl)
  | cons entry rest ih =>
    obtain ⟨key, old⟩ := entry
    by_cases hkey : (key == name) = true
    · rw [setEntry, if_pos hkey, setEntry, if_pos hkey, setEntry, if_pos hkey]
    · rw [setEntry, if_neg hkey, setEntry, if_neg hkey, setEntry, if_neg hkey, ih]

/-- A value that is set under a name that is there already might as well have been set before another one. -/
theorem setEntry_comm {name other : String} (hne : other ≠ name) (value value' : β) {entries : List (String × β)}
    (h : name ∈ entries.map Prod.fst) :
    setEntry name value (setEntry other value' entries) = setEntry other value' (setEntry name value entries) := by
  induction entries with
  | nil => cases h
  | cons entry rest ih =>
    obtain ⟨key, old⟩ := entry
    by_cases hkey : key = name
    · subst hkey
      have hother : ¬(key == other) = true := mt beq_iff_eq.1 hne.symm
      simp only [setEntry, if_neg hother, beq_self_eq_true, if_true]
    · have hname : ¬(key == name) = true := mt beq_iff_eq.1 hkey
      have hrest : name ∈ rest.map Prod.fst := (List.mem_cons.1 h).resolve_left (Ne.symm hkey)
      by_cases hother : (key == other) = true
      · simp only [setEntry, if_pos hother, if_neg hname]
      · simp only [setEntry, if_neg hother, if_neg hname, ih hrest]

theorem setAll_set_comm {name : String} (value : β) {entries : List (String × β)}
    (hentries : name ∉ entries.map Prod.fst) {t : Table β} (h : name ∈ t.names) :
    (t.setAll entries).set name value = (t.set name value).setAll entries := by
  induction entries generalizing t with
  | nil => rfl
  | cons entry rest ih =>
    obtain ⟨key, other⟩ := entry
    obtain ⟨hkey, hrest⟩ := not_or.1 (mt List.mem_cons.2 hentries)
    have hcomm : (t.set key other).set name value = (t.set name value).set key other :=
      congrArg Table.mk (setEntry_comm (Ne.symm hkey) value other h)
    have hmem : name ∈ (t.set key other).names := (mem_names_set other).2 (.inr h)
    calc ((t.set key other).setAll rest).set name value = ((t.set key other).set name value).setAll rest := ih hrest hmem
      _ = ((t.set name value).set key other).setAll rest := by rw [hcomm]

/-- Setting the entries of a table and then one more is setting the entries of the table with that one. -/
theorem setAll_setEntry (name : String) (value : β) {entries : List (String × β)}
    (h : (entries.map Prod.fst).Nodup) (t : Table β) :
    t.setAll (setEntry name value entries) = (t.setAll entries).set name value := by
  induction entries generalizing t with
  | nil => rfl
  | cons entry rest ih =>
    obtain ⟨key, old⟩ := entry
    obtain ⟨hkey, hrest⟩ := List.nodup_cons.1 h
    by_cases hname : key = name
    · subst hname
      have hmem : key ∈ (t.set key old).names := (mem_names_set old).2 (.inl rfl)
      have htwice : (t.set key old).set key value = t.set key value :=
        congrArg Table.mk (setEntry_setEntry key old value t.entries)
      rw [setEntry, if_pos (beq_iff_eq.2 rfl)]
      calc (t.set key value).setAll rest = ((t.set key old).set key value).setAll rest := by rw [htwice]
        _ = ((t.set key old).setAll rest).set key value := (setAll_set_comm value hkey hmem).symm
    · rw [setEntry, if_neg (mt beq_iff_eq.1 hname)]
      exact ih hrest (t.set key old)

theorem nodup_names_setAll (entries : List (String × β)) : (({} : Table β).setAll entries).names.Nodup := by
  induction entries using List.reverseRecOn with
  | nil => exact List.nodup_nil
  | append_singleton entries entry ih =>
    rw [setAll_append]
    exact nodup_names_set ih _ _

/-- Entries may be gathered in a table of their own before they are set. -/
theorem setAll_entries_setAll (entries : List (String × β)) (t : Table β) :
    t.setAll (({} : Table β).setAll entries).entries = t.setAll entries := by
  induction entries using List.reverseRecOn with
  | nil => rfl
  | append_singleton entries entry ih =>
    rw [setAll_append, setAll_append, ← ih]
    exact setAll_setEntry entry.1 entry.2 (nodup_names_setAll entries) t

/-- Of the entries that are set the last one under a name counts, and below them what was there before. -/
theorem get?_setAll (t : Table β) (entries : List (String × β)) (name : String) :
    (t.setAll entries).get? name = ((({} : Table β).setAll entries).get? name).or (t.get? name) := by
  induction entries generalizing t with
  | nil => rfl
  | cons entry rest ih =>
    obtain ⟨key, value⟩ := entry
    calc ((t.set key value).setAll rest).get? name
        = ((({} : Table β).setAll rest).get? name).or (if name = key then some value else t.get? name) := by
          rw [ih, get?_set]
      _ = (((({} : Table β).setAll rest).get? name).or
            (if name = key then some value else ({} : Table β).get? name)).or (t.get? name) := by
          rw [Option.or_assoc]
          by_cases hname : name = key
          · rw [if_pos hname, if_pos hname, Option.some_or]
          · rw [if_neg hname, if_neg hname]
            rfl
      _ = (((({} : Table β).set key value).setAll rest).get? name).or (t.get? name) := by
          rw [ih (({} : Table β).set key value), get?_set]

theorem lookup_map_modify (name other : String) (change : β → β) (entries : List (String × β)) :
    (entries.map fun entry => if entry.1 == name then (entry.1, change entry.2) else entry).lookup other =
      if other = name then (entries.lookup other).map change else entries.lookup other := by
  induction entries with
  | nil => rw [List.map_nil, List.lookup_nil, Option.map_none, ite_self]
  | cons entry rest ih =>
    obtain ⟨key, value⟩ := entry
    rw [List.map_cons, List.lookup_cons]
    by_cases hkey : key = name
    · subst hkey
      rw [if_pos (beq_iff_eq.2 rfl), List.lookup_cons, ih]
      by_cases hother : other = key
      · rw [beq_iff_eq.2 hother, if_pos hother, if_pos hother]
        rfl
      · rw [beq_eq_false_iff_ne.2 hother, if_neg hother]
    · rw [if_neg (ne_of_eq_of_ne (beq_eq_false_iff_ne.2 hkey) Bool.false_ne_true), List.lookup_cons, ih]
      by_cases hother : other = key
      · subst hother
        simp only [beq_self_eq_true, if_neg hkey]
      · rw [beq_eq_false_iff_ne.2 hother]

/-- Only the value under the name is changed. -/
theorem get?_modify (t : Table β) (name other : String) (change : β → β) :
    (t.modify name change).get? other = if other = name then (t.get? other).map change else t.get? other :=
  lookup_map_modify name other change t.entries

theorem modify_id (t : Table β) (name : String) : t.modify name (fun value => value) = t := by
  have hsame : ∀ entry ∈ t.entries, (if entry.1 == name then (entry.1, entry.2) else entry) = id entry := by
    intro entry hmem
    split <;> rfl
  rw [modify, List.map_congr_left hsame, List.map_id]

theorem modify_modify (t : Table β) (name : String) (first second : β → β) :
    (t.modify name first).modify name second = t.modify name fun value => second (first value) := by
  simp only [modify, List.map_map]
  congr 1
  apply List.map_congr_left
  rintro ⟨key, value⟩ -
  rw [Function.comp_apply]
  by_cases hname : key = name
  · subst hname
    simp only [beq_self_eq_true, if_true]
  · simp only [beq_eq_false_iff_ne.2 hname, Bool.false_eq_true, if_false]

end SvgPage.Table
