import Mathlib.Data.List.Basic
import SvgPage.Path.Pen

namespace SvgPage

variable {α : Type}

namespace CommandKind

/-- How many numbers a command takes at a time. -/
def arity : CommandKind → Nat
  | move | line | smoothQuadratic => 2
  | horizontal | vertical => 1
  | cubic => 6
  | smoothCubic | quadratic => 4
  | arc => 7
  | close => 0

/-- What the groups after the first one draw. -/
def further : CommandKind → CommandKind
  | move => line
  | kind => kind

theorem arity_further (kind : CommandKind) : kind.further.arity = kind.arity := by
  cases kind <;> rfl

theorem further_further (kind : CommandKind) : kind.further.further = kind.further := by
  cases kind <;> rfl

theorem further_ne_close {kind : CommandKind} (h : kind ≠ .close) : kind.further ≠ .close := by
  cases kind with
  | close => exact absurd rfl h
  | _ => rintro ⟨⟩

theorem further_ne_arc {kind : CommandKind} (h : kind ≠ .arc) : kind.further ≠ .arc := by
  cases kind with
  | arc => exact absurd rfl h
  | _ => rintro ⟨⟩

theorem arity_pos {kind : CommandKind} (h : kind ≠ .close) : 0 < kind.arity := by
  cases kind with
  | close => exact absurd rfl h
  | _ => decide

end CommandKind

/-- The complete groups of `size` numbers. -/
def completeGroups (size : Nat) (numbers : List α) : List (List α) :=
  (List.range (numbers.length / size)).map fun i => (numbers.drop (i * size)).take size

section Groups

variable {size : Nat} {first rest numbers : List α}

theorem completeGroups_of_lt (h : numbers.length < size) : completeGroups size numbers = [] := by
  rw [completeGroups, Nat.div_eq_of_lt h, List.range_zero, List.map_nil]

theorem completeGroups_append (hsize : 0 < size) (h : first.length = size) :
    completeGroups size (first ++ rest) = first :: completeGroups size rest := by
  have hcount : (first ++ rest).length / size = rest.length / size + 1 := by
    rw [List.length_append, h, Nat.add_comm, Nat.add_div_right _ hsize]
  rw [completeGroups, hcount, List.range_succ_eq_map, List.map_cons, List.map_map]
  congr 1
  · rw [Nat.zero_mul, List.drop_zero, List.take_left' h]
  · refine List.map_congr_left fun i _ => ?_
    have hdrop : (i + 1) * size = first.length + i * size := by
      rw [h, Nat.succ_mul, Nat.add_comm]
    rw [Function.comp_apply, Nat.succ_eq_add_one, hdrop, List.drop_append, List.drop_eq_nil_of_le (by omega)]
    simp

/-- Numbers are taken group by group until they make no complete group any more. -/
theorem groups_induction {motive : List α → Prop} (hsize : 0 < size)
    (short : ∀ numbers, numbers.length < size → motive numbers)
    (group : ∀ first rest, first.length = size → motive rest → motive (first ++ rest)) (numbers : List α) :
    motive numbers := by
  induction hlength : numbers.length using Nat.strongRecOn generalizing numbers with
  | ind n ih =>
    obtain hshort | hlong := Nat.lt_or_ge numbers.length size
    · exact short numbers hshort
    · rw [← List.take_append_drop size numbers]
      refine group _ _ (List.length_take_of_le hlong) (ih _ ?_ _ rfl)
      rw [List.length_drop]
      omega

theorem length_of_mem_completeGroups (hsize : 0 < size) {group : List α} (h : group ∈ completeGroups size numbers) :
    group.length = size := by
  induction numbers using groups_induction hsize with
  | short numbers hshort =>
    rw [completeGroups_of_lt hshort] at h
    cases h
  | group first rest hfirst ih =>
    rw [completeGroups_append hsize hfirst] at h
    cases h with
    | head => exact hfirst
    | tail _ hmem => exact ih hmem

end Groups

namespace PathCommand

/-- Whether a command has one group of numbers, and nothing more. -/
def IsSingle (command : PathCommand α) : Prop := command.parameters.length = command.kind.arity

/-- One command for each complete group of a command. The further pairs of a move draw lines. -/
def split (command : PathCommand α) : List (PathCommand α) :=
  match command.kind with
  | .close => [⟨.close, command.relative, []⟩]
  | kind =>
    match completeGroups kind.arity command.parameters with
    | [] => []
    | first :: rest =>
      ⟨kind, command.relative, first⟩ :: rest.map fun group => ⟨kind.further, command.relative, group⟩

section Split

variable {kind : CommandKind} {first numbers : List α} {rest : List (List α)} {command single : PathCommand α}

theorem split_of_nil (hkind : kind ≠ .close) (relative : Bool) (h : completeGroups kind.arity numbers = []) :
    (PathCommand.mk kind relative numbers).split = [] := by
  cases kind with
  | close => exact absurd rfl hkind
  | _ => simp only [split, h]

theorem split_of_cons (hkind : kind ≠ .close) (relative : Bool)
    (h : completeGroups kind.arity numbers = first :: rest) :
    (PathCommand.mk kind relative numbers).split =
      ⟨kind, relative, first⟩ :: rest.map fun group => ⟨kind.further, relative, group⟩ := by
  cases kind with
  | close => exact absurd rfl hkind
  | _ => simp only [split, h]

/-- What a command for one of the groups of another command has in common with it. -/
structure IsPartOf (single command : PathCommand α) : Prop where
  isSingle : single.IsSingle
  relative : single.relative = command.relative
  kind : single.kind = command.kind ∨ single.kind = command.kind.further

theorem IsPartOf.ne_arc (h : single.IsPartOf command) (harc : command.kind ≠ .arc) : single.kind ≠ .arc := by
  obtain hkind | hkind := h.kind
  · rwa [hkind]
  · rw [hkind]
    exact CommandKind.further_ne_arc harc

theorem isPartOf_of_mem_split (h : single ∈ command.split) : single.IsPartOf command := by
  obtain ⟨kind, relative, numbers⟩ := command
  by_cases hkind : kind = .close
  · subst hkind
    obtain rfl := List.mem_singleton.1 h
    exact ⟨rfl, rfl, .inl rfl⟩
  · have hlength {group : List α} (hgroup : group ∈ completeGroups kind.arity numbers) :
        group.length = kind.arity := length_of_mem_completeGroups (CommandKind.arity_pos hkind) hgroup
    cases hgroups : completeGroups kind.arity numbers with
    | nil =>
      rw [split_of_nil hkind relative hgroups] at h
      cases h
    | cons first rest =>
      rw [split_of_cons hkind relative hgroups] at h
      rw [hgroups] at hlength
      cases h with
      | head => exact ⟨hlength List.mem_cons_self, rfl, .inl rfl⟩
      | tail _ hmem =>
        obtain ⟨group, hgroup, rfl⟩ := List.mem_map.1 hmem
        exact ⟨(hlength (List.mem_cons_of_mem _ hgroup)).trans kind.arity_further.symm, rfl, .inr rfl⟩

theorem isSingle_of_mem_flatMap_split {commands : List (PathCommand α)} (h : single ∈ commands.flatMap split) :
    single.IsSingle := by
  obtain ⟨command, -, hmem⟩ := List.mem_flatMap.1 h
  exact (isPartOf_of_mem_split hmem).isSingle

theorem ne_arc_of_mem_flatMap_split {commands : List (PathCommand α)}
    (harc : ∀ command ∈ commands, command.kind ≠ .arc) (h : single ∈ commands.flatMap split) :
    single.kind ≠ .arc := by
  obtain ⟨command, hcommand, hmem⟩ := List.mem_flatMap.1 h
  exact (isPartOf_of_mem_split hmem).ne_arc (harc command hcommand)

end Split

variable [Scalar α] (minLength : α)

theorem ofCommand_append {kind : CommandKind} (hkind : kind ≠ .close) (relative : Bool) {first : List α}
    (h : first.length = kind.arity) (rest : List α) :
    PathStep.ofCommand minLength ⟨kind, relative, first ++ rest⟩ =
      PathStep.ofCommand minLength ⟨kind, relative, first⟩ ++
        PathStep.ofCommand minLength ⟨kind.further, relative, rest⟩ := by
  cases kind with
  | close => exact absurd rfl hkind
  | horizontal | vertical => match first, h with | [_], _ => rfl
  | move | line | smoothQuadratic => match first, h with | [_, _], _ => rfl
  | smoothCubic | quadratic => match first, h with | [_, _, _, _], _ => rfl
  | cubic => match first, h with | [_, _, _, _, _, _], _ => rfl
  | arc => match first, h with | [_, _, _, _, _, _, _], _ => rfl

theorem ofCommand_of_lt {kind : CommandKind} (relative : Bool) {numbers : List α}
    (h : numbers.length < kind.arity) : PathStep.ofCommand minLength ⟨kind, relative, numbers⟩ = [] := by
  cases kind with
  | close => cases h
  | horizontal | vertical => match numbers, h with | [], _ => rfl
  | move | line | smoothQuadratic => match numbers, h with | [], _ | [_], _ => rfl
  | smoothCubic | quadratic => match numbers, h with | [], _ | [_], _ | [_, _], _ | [_, _, _], _ => rfl
  | cubic =>
    match numbers, h with | [], _ | [_], _ | [_, _], _ | [_, _, _], _ | [_, _, _, _], _ | [_, _, _, _, _], _ => rfl
  | arc =>
    match numbers, h with
    | [], _ | [_], _ | [_, _], _ | [_, _, _], _ | [_, _, _, _], _ | [_, _, _, _, _], _ | [_, _, _, _, _, _], _ => rfl

/-- The groups after the first one draw the same whether they are told together or one by one. -/
theorem ofCommand_further {kind : CommandKind} (hkind : kind ≠ .close) (relative : Bool) (numbers : List α) :
    PathStep.ofCommand minLength ⟨kind.further, relative, numbers⟩ =
      (completeGroups kind.arity numbers).flatMap fun group =>
        PathStep.ofCommand minLength ⟨kind.further, relative, group⟩ := by
  have hfurther := CommandKind.further_ne_close hkind
  induction numbers using groups_induction (CommandKind.arity_pos hkind) with
  | short numbers hshort =>
    rw [completeGroups_of_lt hshort, ofCommand_of_lt _ _ (by rwa [kind.arity_further]), List.flatMap_nil]
  | group first rest hfirst ih =>
    rw [completeGroups_append (CommandKind.arity_pos hkind) hfirst, List.flatMap_cons, ← ih,
      ofCommand_append _ hfurther _ (hfirst.trans kind.arity_further.symm), CommandKind.further_further]

theorem ofCommand_split (command : PathCommand α) :
    PathStep.ofCommand minLength command = command.split.flatMap (PathStep.ofCommand minLength) := by
  obtain ⟨kind, relative, numbers⟩ := command
  by_cases hkind : kind = .close
  · subst hkind
    rfl
  · have hpos := CommandKind.arity_pos hkind
    induction numbers using groups_induction hpos with
    | short numbers hshort =>
      rw [split_of_nil hkind _ (completeGroups_of_lt hshort), ofCommand_of_lt _ _ hshort, List.flatMap_nil]
    | group first rest hfirst =>
      rw [split_of_cons hkind _ (completeGroups_append hpos hfirst), ofCommand_append _ hkind _ hfirst,
        ofCommand_further _ hkind, List.flatMap_cons, List.flatMap_map]

end PathCommand

namespace Pen

variable [Scalar α] (minLength : α)

/-- A command draws what its groups draw one by one. -/
theorem drawCommand_split (pen : Pen α) (command : PathCommand α) :
    pen.drawCommand minLength command = command.split.foldl (drawCommand minLength) pen := by
  have hsame {singles : List (PathCommand α)} (h : ∀ single ∈ singles, single.relative = command.relative)
      (pen : Pen α) :
      (singles.flatMap (PathStep.ofCommand minLength)).foldl (draw minLength command.relative) pen =
        singles.foldl (drawCommand minLength) pen := by
    induction singles generalizing pen with
    | nil => rfl
    | cons single rest ih =>
      rw [List.flatMap_cons, List.foldl_append, List.foldl_cons, ← ih fun other hmem => h other (.tail _ hmem),
        ← h single List.mem_cons_self]
      rfl
  rw [drawCommand, PathCommand.ofCommand_split, hsame fun single hmem => (PathCommand.isPartOf_of_mem_split hmem).relative]

theorem drawCommand_flatMap_split (pen : Pen α) (commands : List (PathCommand α)) :
    commands.foldl (drawCommand minLength) pen =
      (commands.flatMap PathCommand.split).foldl (drawCommand minLength) pen := by
  rw [List.foldl_flatMap]
  exact List.foldl_ext _ _ _ fun pen command _ => pen.drawCommand_split minLength command

end Pen

end SvgPage
