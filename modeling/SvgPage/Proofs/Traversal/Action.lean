import SvgPage.Drawing.Convert

namespace SvgPage.Draw

variable {α β γ : Type} {drawing after : Drawing α}

theorem bind_ok {action : Draw α β} {result : β} (h : action drawing = (.ok result, after))
    (next : β → Draw α γ) : (action >>= next) drawing = next result after := by
  change (ExceptT.bindCont next (action drawing).1) (action drawing).2 = _
  rw [h]
  rfl

theorem bind_error {action : Draw α β} {failure : Failure α} (h : action drawing = (.error failure, after))
    (next : β → Draw α γ) : (action >>= next) drawing = (.error failure, after) := by
  change (ExceptT.bindCont next (action drawing).1) (action drawing).2 = _
  rw [h]
  rfl

/-- An action and the one after it either both succeed, or the first failure is the failure of both. -/
theorem bind_cases (action : Draw α β) (next : β → Draw α γ) (drawing : Drawing α) :
    (∃ result after, action drawing = (.ok result, after) ∧ (action >>= next) drawing = next result after) ∨
      (∃ failure after, action drawing = (.error failure, after) ∧
        (action >>= next) drawing = (.error failure, after)) := by
  cases haction : action drawing with
  | mk result after =>
    cases result with
    | ok result => exact .inl ⟨result, after, rfl, bind_ok haction next⟩
    | error failure => exact .inr ⟨failure, after, rfl, bind_error haction next⟩

/-- What comes after an action sees nothing but its result and what it leaves of the drawing. -/
theorem bind_congr_apply {action other : Draw α β} {behind : Drawing α} (h : action drawing = other behind)
    (next : β → Draw α γ) : (action >>= next) drawing = (other >>= next) behind := by
  change (ExceptT.bindCont next (action drawing).1) (action drawing).2 =
    (ExceptT.bindCont next (other behind).1) (other behind).2
  rw [h]

/-- An action that succeeds yields nothing but what it leaves of the drawing. -/
theorem eq_ok {action : Draw α Unit} (h : (action drawing).1.isOk = true) :
    action drawing = (.ok (), (action drawing).2) := by
  cases haction : action drawing with
  | mk result after =>
    cases result with
    | ok result => rfl
    | error failure =>
      rw [haction] at h
      cases h

theorem document_bind (next : Document α → Draw α γ) (drawing : Drawing α) :
    (document >>= next) drawing = next drawing.document drawing := rfl

theorem update_apply (action : Document α → StateM (Ledger α) (Document α × β)) (drawing : Drawing α) :
    let updated := action drawing.document drawing.ledger
    update action drawing =
      (.ok updated.1.2, { drawing with document := updated.1.1, ledger := updated.2 }) := rfl

variable [Scalar α]

theorem endTag_nil (setting : Setting α) (name : String) (h : drawing.document.openElements = []) :
    endTag setting name drawing = (.error (.unexpectedEnd name), drawing) := by
  rw [endTag, document_bind, h]
  rfl

/-- An end tag ends the innermost open element. -/
theorem endTag_cons (setting : Setting α) (name : String) {element : OpenElement α}
    {outer : List (OpenElement α)} (h : drawing.document.openElements = element :: outer) :
    let ended := { drawing.document with openElements := outer }.endElement setting element name
      drawing.ledger
    endTag setting name drawing = (.ok (), { drawing with document := ended.1, ledger := ended.2 }) := by
  rw [endTag, document_bind, h]
  rfl

theorem exists_startTagWith (setting : Setting α) (embed : Option (Embedding α)) (levels : Nat) :
    ∃ start, startTag setting embed levels = startTagWith setting embed start := by
  cases levels <;> exact ⟨_, rfl⟩

/-- A start tag in the root is recorded, and then what its element asks for is carried out. -/
theorem startTagWith_apply (setting : Setting α) (embed : Option (Embedding α)) (start : Option (StartHandler α))
    (name : String) (attributes : Attributes) (hroot : drawing.document.rootSeen = true) :
    let begun := drawing.document.beginTag setting name attributes drawing.ledger
    startTagWith setting embed start name attributes drawing =
      (carryOut setting embed start begun.1.2.opening >>= fun closing =>
        change (·.push ⟨closing, begun.1.2.recorded, begun.1.2.defines⟩))
        { drawing with document := begun.1.1, ledger := begun.2 } := by
  simp only [startTagWith, document_bind, hroot, Bool.not_true, Bool.false_eq_true, if_false]
  rw [bind_ok (update_apply _ drawing)]

end SvgPage.Draw

namespace SvgPage

/-- What a way to draw documents owes to how the documents in them are drawn holds for any number of levels. -/
theorem convertNested_induction {α : Type} [Scalar α] {P : Embedding α → Prop}
    (h : ∀ embed : Option (Embedding α), (∀ embed' ∈ embed, P embed') → P (convertWith embed)) (levels : Nat) :
    P (convertNested levels) := by
  induction levels with
  | zero => exact h none fun embed hnone => by cases hnone
  | succ levels ih =>
    refine h (some _) fun embed hsome => ?_
    cases hsome
    exact ih

end SvgPage
