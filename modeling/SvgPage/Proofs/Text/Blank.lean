import Mathlib.Data.List.DropRight
import SvgPage.Text.Blank

namespace SvgPage.Text

theorem dropTail_append (skip : Char → Bool) (first second : List Char) :
    dropTail skip (first ++ second) =
      if second.all skip then dropTail skip first else first ++ dropTail skip second := by
  have hempty : (second.reverse.dropWhile skip).isEmpty = second.all skip := by
    rw [Bool.eq_iff_iff, List.isEmpty_iff, List.dropWhile_eq_nil_iff, List.all_eq_true]
    simp only [List.mem_reverse]
  rw [dropTail, List.reverse_append, List.dropWhile_append, hempty]
  split
  · rfl
  · rw [List.reverse_append, List.reverse_reverse]
    rfl

theorem dropTail_of_all {skip : Char → Bool} {cs : List Char} (h : cs.all skip = true) : dropTail skip cs = [] := by
  have hdropped := dropTail_append skip [] cs
  rwa [h, if_pos rfl] at hdropped

theorem dropTail_cons {skip : Char → Bool} {c : Char} (hc : skip c = false) (cs : List Char) :
    dropTail skip (c :: cs) = c :: dropTail skip cs := by
  rw [dropTail, dropTail, List.reverse_cons, List.dropWhile_append]
  cases hcs : cs.reverse.dropWhile skip with
  | nil =>
    rw [List.isEmpty_nil, if_pos rfl, List.dropWhile_cons_of_neg (by rw [hc]; exact Bool.false_ne_true)]
    rfl
  | cons first rest =>
    rw [List.isEmpty_cons, if_neg Bool.false_ne_true, List.reverse_append]
    rfl

theorem dropTail_append_cons {skip : Char → Bool} {c : Char} (hc : skip c = false) (first rest : List Char) :
    dropTail skip (first ++ c :: rest) = first ++ c :: dropTail skip rest := by
  rw [dropTail_append, List.all_cons, hc, Bool.false_and, if_neg Bool.false_ne_true, dropTail_cons hc]

theorem dropTail_of_none {skip : Char → Bool} {cs : List Char} (h : ∀ c ∈ cs, skip c = false) :
    dropTail skip cs = cs := by
  induction cs with
  | nil => rfl
  | cons c rest ih =>
    obtain ⟨hc, hrest⟩ := List.forall_mem_cons.1 h
    rw [dropTail_cons hc, ih hrest]

theorem filter_dropTail (skip : Char → Bool) (cs : List Char) :
    (dropTail skip cs).filter (!skip ·) = cs.filter (!skip ·) := by
  induction cs using List.reverseRecOn with
  | nil => rfl
  | append_singleton first c ih =>
    cases hc : skip c with
    | false => rw [dropTail_append_cons hc]; rfl
    | true =>
      have hall : [c].all skip = true := by rw [List.all_cons, hc]; rfl
      rw [dropTail_append, if_pos hall, ih, List.filter_append, List.filter_cons_of_neg (by rw [hc]; decide),
        List.filter_nil, List.append_nil]

theorem toList_trim {s : String} {c : Char} {cs : List Char} (hs : s.toList = c :: cs) (hc : isBlank c = false) :
    (trim s).toList = c :: dropTail isBlank cs := by
  rw [trim, trimEnd, String.toList_ofList, trimStart, String.toList_ofList, hs,
    List.dropWhile_cons_of_neg (by rw [hc]; exact Bool.false_ne_true), dropTail_cons hc]

/-- Two texts of which the second is the first with white space put in, wherever that may be. -/
inductive Spaced : List Char → List Char → Prop
  | nil : Spaced [] []
  | char (c : Char) {text spaced : List Char} (h : Spaced text spaced) : Spaced (c :: text) (c :: spaced)
  | blank {c : Char} (hc : isBlank c = true) {text spaced : List Char} (h : Spaced text spaced) :
      Spaced text (c :: spaced)

theorem spaced_filter (cs : List Char) : Spaced (cs.filter (!isBlank ·)) cs := by
  induction cs with
  | nil => exact .nil
  | cons c rest ih =>
    cases hc : isBlank c with
    | false =>
      rw [List.filter_cons_of_pos (by rw [hc]; rfl)]
      exact .char c ih
    | true =>
      rw [List.filter_cons_of_neg (by rw [hc]; decide)]
      exact .blank hc ih

/-- Without the white space the text is there again, if it has none itself. -/
theorem Spaced.filter_eq {text spaced : List Char} (h : Spaced text spaced)
    (hvisible : ∀ c ∈ text, isBlank c = false) : spaced.filter (!isBlank ·) = text := by
  induction h with
  | nil => rfl
  | char c _ ih =>
    obtain ⟨hc, hrest⟩ := List.forall_mem_cons.1 hvisible
    rw [List.filter_cons_of_pos (by rw [hc]; rfl), ih hrest]
  | blank hc _ ih => rw [List.filter_cons_of_neg (by rw [hc]; decide), ih hvisible]

end SvgPage.Text
