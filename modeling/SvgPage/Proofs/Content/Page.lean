import SvgPage.Proofs.Content.Painting

namespace SvgPage

open ContentState (between InForce)

variable {α : Type}

namespace ContentState

/-- In what can be read, no more graphics states are restored than have been saved. -/
theorem countP_isRestore_le {clips : List (List (Operator α))} {operators : List (Operator α)}
    {last : ContentState α} (h : (between clips []).readAll operators = some last) :
    operators.countP Operator.isRestore ≤ operators.countP Operator.isSave := by
  have hcount := countP_isSave_of_readAll h
  simp only [between, List.length_nil] at hcount
  omega

end ContentState

/-- Content on a page that clips to a box before anything is painted: the map of the drawing, the box, and
    all that follows, after which the given clipping paths are in force and graphics states are saved. -/
structure BoxedContent (box : Box α) (content : List (Operator α)) (clips : List (List (Operator α)))
    (saved : List (List (List (Operator α)))) : Prop where
  split : ∃ transform body, content = transform ++ [.rect box, .paint .clip] ++ body ∧
    (transform = [] ∨ ∃ matrix, transform = [.transform matrix]) ∧
    (between [[.rect box]] []).readAll body = some (between clips saved)

namespace BoxedContent

variable {box : Box α} {content operators : List (Operator α)} {clips : List (List (Operator α))}
  {saved : List (List (List (Operator α)))}

/-- What follows goes on from where the content ends. -/
theorem append {clips' : List (List (Operator α))} {saved' : List (List (List (Operator α)))}
    (h : BoxedContent box content clips saved)
    (hread : (between clips saved).readAll operators = some (between clips' saved')) :
    BoxedContent box (content ++ operators) clips' saved' := by
  obtain ⟨transform, body, rfl, htransform, hbody⟩ := h.split
  refine ⟨transform, body ++ operators, (List.append_assoc ..), htransform, ?_⟩
  rw [ContentState.readAll_append_of_eq hbody, hread]

theorem append_block (h : BoxedContent box content clips saved) (hblock : Block operators) :
    BoxedContent box (content ++ operators) clips saved :=
  h.append (hblock.readAll clips saved)

theorem append_prologue (h : BoxedContent box content clips saved) (hprologue : Prologue operators) :
    ∃ more, BoxedContent box (content ++ operators) (more ++ clips) (clips :: saved) := by
  obtain ⟨more, hmore⟩ := hprologue.readAll clips saved
  exact ⟨more, h.append hmore⟩

theorem append_restore {outer : List (List (Operator α))}
    (h : BoxedContent box content clips (outer :: saved)) (hblock : Block operators) :
    BoxedContent box (content ++ (operators ++ [.restore])) outer saved :=
  h.append (hblock.readAll_restore clips outer saved)

theorem read_boxed {transform : List (Operator α)}
    (h : transform = [] ∨ ∃ matrix, transform = [.transform matrix]) (box : Box α) :
    (between [] []).readAll (transform ++ [.rect box, .paint .clip]) = some (between [[.rect box]] []) := by
  obtain rfl | ⟨matrix, rfl⟩ := h
  · rfl
  · rfl

theorem readAll (h : BoxedContent box content clips saved) :
    (between [] []).readAll content = some (between clips saved) := by
  obtain ⟨transform, body, rfl, htransform, hbody⟩ := h.split
  rw [ContentState.readAll_append_of_eq (read_boxed htransform box), hbody]

/-- The box is in force wherever something is painted. -/
theorem inForce_of_isPainting {first second : List (Operator α)} {operator : Operator α}
    (h : BoxedContent box content clips saved) (hsplit : content = first ++ operator :: second)
    (hpainting : operator.isPainting = true) :
    ∃ state, (between [] []).readAll first = some state ∧ InForce [.rect box] state := by
  obtain ⟨transform, body, rfl, htransform, hbody⟩ := h.split
  have hquiet : ∀ other ∈ transform ++ [.rect box, .paint .clip], other.isPainting = false := by
    obtain rfl | ⟨matrix, rfl⟩ := htransform <;> simp [Operator.isPainting, PaintOperator.marks]
  have hbox : InForce [.rect box] (between [[Operator.rect box]] []) :=
    ⟨List.mem_singleton_self _, List.forall_mem_nil _⟩
  obtain ⟨inner, hfirst, hbodySplit⟩ | ⟨inner, hboxed, hrest⟩ := List.append_eq_append_iff.1 hsplit
  · subst hfirst
    rw [hbodySplit] at hbody
    obtain ⟨state, hstate, -⟩ := ContentState.exists_readAll_of_append hbody
    refine ⟨state, ?_, hbox.readAll hstate⟩
    rw [ContentState.readAll_append_of_eq (read_boxed htransform box), hstate]
  · cases inner with
    | nil =>
      rw [List.append_nil] at hboxed
      rw [← hboxed]
      exact ⟨_, read_boxed htransform box, hbox⟩
    | cons painted inner =>
      obtain ⟨rfl, -⟩ := List.cons.inj hrest
      have hmem : operator ∈ transform ++ [.rect box, .paint .clip] := by
        rw [hboxed]
        exact List.mem_append_right _ List.mem_cons_self
      rw [hquiet operator hmem] at hpainting
      cases hpainting

section Saved

variable {first second : List (Operator α)}

theorem readAll_saved (h : BoxedContent box content clips saved) :
    (between [] []).readAll (.save :: content) = some (between clips (saved ++ [[]])) :=
  ContentState.readAll_above h.readAll [[]]

theorem countP_saved (h : BoxedContent box content clips saved) :
    (.save :: content).countP Operator.isSave =
      (.save :: content).countP Operator.isRestore + (saved.length + 1) := by
  have hcount := ContentState.countP_isSave_of_readAll h.readAll
  rw [List.countP_cons_of_pos rfl, List.countP_cons_of_neg Bool.false_ne_true]
  simp only [between, List.length_nil] at hcount
  omega

/-- From its beginning on, the graphics state around boxed content is saved. -/
theorem countP_isRestore_lt (h : BoxedContent box content clips saved)
    (hsplit : .save :: content = first ++ second) (hfirst : first ≠ []) :
    first.countP Operator.isRestore < first.countP Operator.isSave := by
  obtain ⟨operator, inner, rfl⟩ := List.exists_cons_of_ne_nil hfirst
  obtain ⟨rfl, hinner⟩ := List.cons.inj hsplit
  have hcontent := h.readAll
  rw [hinner] at hcontent
  obtain ⟨state, hstate, -⟩ := ContentState.exists_readAll_of_append hcontent
  rw [List.countP_cons_of_neg Bool.false_ne_true, List.countP_cons_of_pos rfl]
  exact Nat.lt_succ_of_le (ContentState.countP_isRestore_le hstate)

theorem clips_of_isPainting {operator : Operator α} (h : BoxedContent box content clips saved)
    (hsplit : .save :: content = first ++ operator :: second) (hpainting : operator.isPainting = true) :
    ∃ state, (between [] []).readAll first = some state ∧ [.rect box] ∈ state.clips := by
  cases first with
  | nil =>
    obtain ⟨rfl, -⟩ := List.cons.inj hsplit
    cases hpainting
  | cons saving inner =>
    obtain ⟨rfl, hinner⟩ := List.cons.inj hsplit
    obtain ⟨state, hstate, hclips, -⟩ := h.inForce_of_isPainting hinner hpainting
    exact ⟨state.above [[]], ContentState.readAll_above hstate [[]], hclips⟩

end Saved

end BoxedContent

end SvgPage
