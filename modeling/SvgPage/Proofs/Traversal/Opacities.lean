import SvgPage.Proofs.Drawing.Opacities
import SvgPage.Proofs.Traversal.Conversion
import SvgPage.Proofs.Traversal.Embeds

namespace SvgPage

variable {α : Type} [Scalar α]

/-- The opacities that a start tag states lie between zero and one. -/
def MarkupEvent.StatesAlphas (α : Type) [Scalar α] : MarkupEvent → Prop
  | startTag _ attributes => attributes.StatesAlphas α
  | endTag _ | text _ => True

instance : DecidablePred (MarkupEvent.StatesAlphas α)
  | .startTag _ attributes => inferInstanceAs (Decidable (attributes.StatesAlphas α))
  | .endTag _ | .text _ => inferInstanceAs (Decidable True)

namespace Stage

/-- The tag that is handled next, of an expanded use or of the document, states only opacities between zero
    and one. -/
def StatesAlphas (stage : Stage α) : Prop := ∀ entry ∈ stage.fetch, entry.1.StatesAlphas α

structure HasAlphas (stage : Stage α) : Prop where
  ledger : stage.drawing.ledger.HasAlphas
  document : stage.document.HasAlphas

end Stage

def Progress.HasAlphas : Progress α → Prop
  | next stage => stage.HasAlphas
  | embedding _ _ waiting element => waiting.HasAlphas ∧ element.closing.HasAlphas
  | failed _ ledger => ledger.HasAlphas
  | ended => True

variable [Scalar.Bounded α] {setting : Setting α} {attributes : Attributes}

namespace Stage.HasAlphas

variable {stage fetched : Stage α}

omit [Scalar.Bounded α] in
theorem fetch {event : MarkupEvent} (h : stage.HasAlphas) (hfetch : stage.fetch = some (event, fetched)) :
    fetched.HasAlphas := by
  refine ⟨?_, ?_⟩
  · rw [(fetch_drawing hfetch).1]
    exact h.ledger
  · obtain hsame | ⟨text, hread⟩ := fetch_document hfetch
    · rw [hsame]
      exact h.document
    · rw [hread]
      exact h.document.addText text

theorem openRoot (h : stage.HasAlphas) (hattributes : attributes.StatesAlphas α) (name : String) :
    (stage.advanceBy (Draw.openRoot setting name attributes)).HasAlphas := by
  have hdocument : ({ stage.document with rootSeen := true } : Document α).HasAlphas :=
    h.document.of_eq rfl rfl rfl
  obtain ⟨hledger, hopened⟩ := h.ledger.openRoot setting hdocument hattributes
  cases hresult : (Document.openRoot setting { stage.document with rootSeen := true } attributes).run
      stage.drawing.ledger with
  | mk result ledger =>
    rw [hresult] at hledger hopened
    rw [Stage.document] at hresult
    by_cases hforeign : (ElementKind.ofName name != .svg) = true
    · simp only [advanceBy, Draw.openRoot, if_pos hforeign]
      exact h.ledger
    · cases result with
      | error failure =>
        simp only [advanceBy, Draw.openRoot, if_neg hforeign, hresult]
        exact hledger
      | ok opened =>
        have hroot := hopened opened rfl
        simp only [advanceBy, Draw.openRoot, if_neg hforeign, hresult]
        exact ⟨hledger, hroot.document.push hroot.closing⟩

theorem startTag (h : stage.HasAlphas) (hattributes : attributes.StatesAlphas α) (name : String) :
    (stage.startTag setting name attributes).HasAlphas := by
  rw [Stage.startTag]
  split
  next =>
    have hbegun := Bounds.beginTag setting h.document hattributes name
    have hledger := hbegun.ledger h.ledger
    have hresult := hbegun.result stage.drawing.ledger
    generalize stage.document.beginTag setting name attributes stage.drawing.ledger = begun at hledger hresult ⊢
    obtain ⟨⟨document, ⟨opening, recorded, defines⟩⟩, ledger⟩ := begun
    obtain ⟨hdocument, hclosing⟩ := hresult
    cases opening with
    | element closing => exact ⟨hledger, hdocument.push hclosing⟩
    | expansion id tags => exact ⟨hledger, hdocument.of_eq rfl rfl rfl⟩
    | embedding inner markup => exact ⟨⟨hledger, hdocument⟩, trivial⟩
  next => exact h.openRoot hattributes name

theorem endTag (h : stage.HasAlphas) (name : String) :
    (stage.advanceBy (Draw.endTag setting name)).HasAlphas := by
  cases helements : stage.document.openElements with
  | nil =>
    rw [advanceBy, Draw.endTag_nil setting name helements]
    exact h.ledger
  | cons element outer =>
    obtain ⟨helement, houter⟩ := List.forall_mem_cons.1 (helements ▸ h.document.openElements)
    have hpopped : ({ stage.document with openElements := outer } : Document α).HasAlphas :=
      ⟨h.document.frame, houter, h.document.gradients⟩
    have hended := Bounds.endElement setting hpopped helement name
    rw [advanceBy, Draw.endTag_cons setting name helements]
    exact ⟨hended.ledger h.ledger, hended.result _⟩

/-- No step takes an opacity out of its bounds, if none of the tags does. -/
theorem step (h : stage.HasAlphas) (hstates : stage.StatesAlphas) : (stage.step setting).HasAlphas := by
  rw [Stage.step]
  split
  next event fetched hfetch =>
    have hfetched := h.fetch hfetch
    have hevent := hstates _ hfetch
    cases event with
    | startTag name attributes => exact hfetched.startTag hevent name
    | endTag name => exact hfetched.endTag name
    | text text => exact ⟨hfetched.ledger, hfetched.document.addText text⟩
  next =>
    split
    · refine ⟨h.ledger, Document.HasAlphas.push ?_ trivial⟩
      exact h.document.of_eq rfl rfl rfl
    · trivial

theorem initial {ledger : Ledger α} (hledger : ledger.HasAlphas) (events : List MarkupEvent) :
    (Stage.initial setting ledger events).HasAlphas := ⟨hledger, .initial setting⟩

end Stage.HasAlphas

namespace Conversion

/-- The tag that is handled next states only opacities between zero and one. -/
def StatesAlphas : Conversion α → Prop
  | drawing current _ => current.stage.StatesAlphas
  | finished _ => True

/-- All opacities in a conversion lie between zero and one: those of the documents that are being drawn, and
    those of the graphics states that have been registered. -/
def HasAlphas : Conversion α → Prop
  | drawing current waiting => current.stage.HasAlphas ∧
      ∀ outer ∈ waiting, outer.activation.stage.document.HasAlphas ∧ outer.element.closing.HasAlphas
  | finished result => result.2.HasAlphas

variable {waiting : List (Waiting α)}

omit [Scalar.Bounded α] in
/-- The document around one that has been drawn goes on with all that has been registered. -/
theorem hasAlphas_deliver {result : Except (Failure α) (DocumentTree α) × Ledger α}
    (hwaiting : ∀ outer ∈ waiting, outer.activation.stage.document.HasAlphas ∧ outer.element.closing.HasAlphas)
    (hresult : result.2.HasAlphas) : (deliver waiting result).HasAlphas := by
  obtain ⟨result, ledger⟩ := result
  cases result with
  | error failure => exact hresult
  | ok tree =>
    cases waiting with
    | nil => exact hresult
    | cons innermost outer =>
      obtain ⟨⟨hdocument, hclosing⟩, houter⟩ := List.forall_mem_cons.1 hwaiting
      exact ⟨⟨hresult, hdocument.push hclosing⟩, houter⟩

theorem HasAlphas.step {conversion : Conversion α} (h : conversion.HasAlphas) (hstates : conversion.StatesAlphas) :
    conversion.step.HasAlphas := by
  cases conversion with
  | finished result => exact h
  | drawing current waiting =>
    obtain ⟨setting, errorLine, stage⟩ := current
    obtain ⟨hcurrent, hwaiting⟩ := h
    have hnext : (stage.step setting).HasAlphas := hcurrent.step hstates
    rw [Conversion.step]
    cases hstep : stage.step setting with
    | next next =>
      rw [hstep] at hnext
      exact ⟨hnext, hwaiting⟩
    | embedding inner markup outer element =>
      rw [hstep] at hnext
      obtain ⟨houter, helement⟩ := hnext
      exact ⟨.initial houter.ledger _, List.forall_mem_cons.2 ⟨⟨houter.document, helement⟩, hwaiting⟩⟩
    | failed failure ledger =>
      rw [hstep] at hnext
      exact hnext
    | ended =>
      refine hasAlphas_deliver hwaiting ?_
      cases errorLine with
      | none => exact hcurrent.ledger
      | some line => exact hcurrent.ledger

/-- Where all elements that are handled in a conversion, those of embedded documents and of expanded uses
    included, state opacities between zero and one, the alphas of all graphics states that are registered lie
    between zero and one. Whatever the colors, gradients and groups are, no other alphas come from them. -/
theorem alphas_of_leads {markup : String} {ledger : Ledger α} (hledger : ledger.HasAlphas)
    (hstates : ∀ conversion, Leads (enter setting markup ledger []) conversion → conversion.StatesAlphas) :
    ∀ fillAlpha strokeAlpha blendMode,
      .graphicsState fillAlpha strokeAlpha blendMode ∈ (convertDocument setting markup ledger).2.resources →
        Scalar.IsAlpha fillAlpha ∧ Scalar.IsAlpha strokeAlpha := by
  have hall (steps : Nat) : (Conversion.step^[steps] (enter setting markup ledger [])).HasAlphas := by
    induction steps with
    | zero => exact ⟨.initial hledger _, List.forall_mem_nil _⟩
    | succ steps ih =>
      rw [Function.iterate_succ_apply']
      exact ih.step (hstates _ ⟨steps, rfl⟩)
  obtain ⟨steps, hfinished⟩ := convertDocument_leads setting markup ledger
  have hresult := hall steps
  rw [hfinished] at hresult
  exact fun _ _ _ hmem => hresult _ hmem

instance : DecidablePred (StatesAlphas : Conversion α → Prop)
  | .drawing current _ => inferInstanceAs (Decidable (∀ entry ∈ current.stage.fetch, entry.1.StatesAlphas α))
  | .finished _ => inferInstanceAs (Decidable True)

def isFinished : Conversion α → Bool
  | drawing .. => false
  | finished _ => true

omit [Scalar.Bounded α] in
/-- What holds at the first steps of a conversion that has ended with them holds at all its steps. -/
theorem forall_leads {first : Conversion α} {P : Conversion α → Prop} {last : Nat}
    (hfinished : (Conversion.step^[last] first).isFinished = true)
    (h : ∀ steps < last + 1, P (Conversion.step^[steps] first)) :
    ∀ conversion, Leads first conversion → P conversion := by
  have hfixed : (Conversion.step^[last] first).step = Conversion.step^[last] first := by
    cases hlast : Conversion.step^[last] first with
    | drawing current waiting =>
      rw [hlast] at hfinished
      cases hfinished
    | finished result => rfl
  rintro _ ⟨steps, rfl⟩
  obtain hbelow | habove := Nat.lt_or_ge steps last
  · exact h steps (Nat.lt_succ_of_lt hbelow)
  · obtain ⟨more, rfl⟩ := Nat.exists_eq_add_of_le habove
    rw [Nat.add_comm, Function.iterate_add_apply, Function.iterate_fixed hfixed]
    exact h last (Nat.lt_succ_self last)

/-- A rectangle in a group, both of which state opacities, in colors of which one has an alpha. -/
theorem alphas_in_group :
    let markup := "<svg width='10' height='20'><g opacity='0.5'>" ++
      "<rect width='5' height='4' fill='#f008' stroke='red' stroke-opacity='0.5'/></g></svg>"
    (∀ conversion, Leads (enter Exact.setting markup {} []) conversion → conversion.StatesAlphas) ∧
      .graphicsState (4 / 15) (1 / 4 : Rat) .normal ∈
        (convertDocument Exact.setting markup {}).2.resources ∧
      Scalar.IsAlpha (4 / 15 : Rat) := by
  intro markup
  have hfinished : (Conversion.step^[7] (enter Exact.setting markup {} [])).isFinished = true := by
    decide +kernel
  have hsteps : ∀ steps < 7 + 1, (Conversion.step^[steps] (enter Exact.setting markup {} [])).StatesAlphas := by
    decide +kernel
  have hstates := forall_leads hfinished hsteps
  have hregistered : .graphicsState (4 / 15) (1 / 4 : Rat) .normal ∈
      (convertDocument Exact.setting markup {}).2.resources := by
    decide +kernel
  have hledger : Ledger.HasAlphas ({} : Ledger Rat) := fun _ hmem => absurd hmem (Array.not_mem_empty _)
  exact ⟨hstates, hregistered, (alphas_of_leads hledger hstates _ _ _ hregistered).1⟩

/-- An opacity below zero is not moved to zero, as the alpha of a color is. -/
theorem alpha_below_zero :
    let markup := "<svg width='10' height='20'><rect width='5' height='4' opacity='-1'/></svg>"
    ¬∀ fillAlpha strokeAlpha blendMode,
      .graphicsState fillAlpha strokeAlpha blendMode ∈ (convertDocument Exact.setting markup {}).2.resources →
        Scalar.IsAlpha fillAlpha ∧ Scalar.IsAlpha strokeAlpha := by
  intro markup hclaim
  have hregistered : .graphicsState (-1 : Rat) (-1) .normal ∈
      (convertDocument Exact.setting markup {}).2.resources := by
    decide +kernel
  exact absurd (hclaim _ _ _ hregistered).1 (by decide +kernel)

end Conversion

end SvgPage
