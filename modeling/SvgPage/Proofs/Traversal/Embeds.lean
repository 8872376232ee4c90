import SvgPage.Drawing.Convert
import SvgPage.Proofs.Traversal.Layers

namespace SvgPage

variable {α : Type}

namespace Stage

/-- Fetching an event changes nothing but the document. -/
theorem fetch_drawing {stage fetched : Stage α} {event : MarkupEvent}
    (h : stage.fetch = some (event, fetched)) :
    fetched.drawing.ledger = stage.drawing.ledger ∧ fetched.drawing.embedded = stage.drawing.embedded := by
  rw [fetch] at h
  split at h
  · split at h
    · cases h
    · cases h
      exact ⟨rfl, rfl⟩
  · split at h
    · cases h
    · cases h
      exact ⟨rfl, rfl⟩

/-- What is kept of all drawings, whether a conversion goes on or has failed. -/
def Outcome.ledger : Outcome α → Ledger α
  | .ok stage => stage.drawing.ledger
  | .error (_, ledger) => ledger

variable [Scalar α] {setting : Setting α} {embed : Option (Embedding α)} {stage : Stage α} {outcome : Outcome α}
  {failure : Failure α} {ledger : Ledger α}

theorem openRoot_extends (setting : Setting α) (name : String) (attributes : Attributes) (drawing : Drawing α) :
    drawing.ledger.Extends (Draw.openRoot setting name attributes drawing).2.ledger := by
  rw [Draw.openRoot]
  split
  · exact List.prefix_refl _
  · have hgrows :=
      Document.openRoot_extends setting { drawing.document with rootSeen := true } attributes drawing.ledger
    dsimp only
    split
    next hopened =>
      rw [hopened] at hgrows
      exact hgrows
    next hopened =>
      rw [hopened] at hgrows
      exact hgrows

theorem startTag_error_extends {name : String} {attributes : Attributes}
    (hembed : ∀ embed' ∈ embed, embed'.Extends)
    (h : (stage.startTag setting name attributes).resolve embed = some (.error (failure, ledger))) :
    stage.drawing.ledger.Extends ledger := by
  rw [startTag] at h
  split at h
  next hroot =>
    have hgrows := (AddsWith.beginTag setting stage.document attributes name).grows.extends_ledger stage.drawing.ledger
    cases hbegun : stage.document.beginTag setting name attributes stage.drawing.ledger with
    | mk result begun =>
      obtain ⟨document, ⟨opening, recorded, defines⟩⟩ := result
      rw [hbegun] at h hgrows
      cases opening with
      | element closing => cases h
      | expansion id tags => cases h
      | embedding inner markup =>
        cases embed with
        | none => cases h
        | some embed =>
          have hextends := hembed embed rfl inner markup begun
          simp only [afterBegun, Progress.resolve] at h
          split at h
          · cases h
          next hembedded =>
            cases h
            rw [hembedded] at hextends
            exact hgrows.trans hextends
  next hroot =>
    have hextends := openRoot_extends setting name attributes stage.drawing
    rw [advanceBy] at h
    split at h
    · cases h
    next hopened =>
      cases h
      rw [hopened] at hextends
      exact hextends

/-- No step takes anything back that has been registered. -/
theorem step_extends (hembed : ∀ embed' ∈ embed, embed'.Extends)
    (h : (stage.step setting).resolve embed = some outcome) :
    stage.drawing.ledger.Extends (Outcome.ledger outcome) := by
  cases outcome with
  | ok next =>
    obtain ⟨expansion, outer, -, -, hnext⟩ | ⟨event, fetched, hfetch, hturns⟩ := step_turns hembed h
    · have hledger : next.drawing.ledger = stage.drawing.ledger := by rw [hnext]
      rw [Outcome.ledger, hledger]
      exact List.prefix_refl _
    · rw [← (fetch_drawing hfetch).1]
      exact hturns.extends_ledger
  | error failed =>
    obtain ⟨failure, ledger⟩ := failed
    rw [step] at h
    split at h
    next event fetched hfetch =>
      rw [← (fetch_drawing hfetch).1]
      cases event with
      | startTag name attributes => exact startTag_error_extends hembed h
      | endTag name =>
        cases helements : fetched.drawing.document.openElements with
        | nil =>
          rw [handle, advanceBy, Draw.endTag_nil setting name helements] at h
          cases h
          exact List.prefix_refl _
        | cons element outer =>
          rw [handle, advanceBy, Draw.endTag_cons setting name helements] at h
          cases h
      | text text => cases h
    · split at h <;> cases h

theorem Runs.extends_ledger {first last : Outcome α} (hembed : ∀ embed' ∈ embed, embed'.Extends)
    (h : Runs setting embed first last) : (Outcome.ledger first).Extends (Outcome.ledger last) := by
  induction h with
  | refl => exact List.prefix_refl _
  | tail _ hleads ih =>
    cases hleads with
    | step hstep => exact ih.trans (step_extends hembed hstep)

end Stage

variable [Scalar α]

/-- A document that has been drawn is well-formed, and nothing failed. -/
theorem convertWith_inv {embed : Option (Embedding α)} {setting : Setting α} {markup : String}
    {ledger after : Ledger α} {tree : DocumentTree α}
    (h : convertWith embed setting markup ledger = (.ok tree, after)) :
    ∃ drawing, Draw.events setting embed (Markup.read markup).events (.initial setting ledger) = (.ok (), drawing) ∧
      (Markup.read markup).errorLine = none ∧ tree = .node setting drawing.document drawing.embedded ∧
      after = drawing.ledger := by
  rw [convertWith] at h
  cases hdrawn : Draw.events setting embed (Markup.read markup).events (.initial setting ledger) with
  | mk result drawing =>
    rw [hdrawn] at h
    cases result with
    | error failure => cases h
    | ok result =>
      cases hline : (Markup.read markup).errorLine with
      | some line =>
        rw [hline] at h
        cases h
      | none =>
        rw [hline] at h
        cases h
        exact ⟨drawing, rfl, rfl, rfl, rfl⟩

/-- Converting a document keeps all resources that have been registered, whether it fails or not. -/
theorem convertWith_extends {embed : Option (Embedding α)} (hembed : ∀ embed' ∈ embed, embed'.Extends) :
    (convertWith embed).Extends := by
  intro setting markup ledger
  have hruns : Stage.Runs setting embed _ (Stage.outcome [] [] _) :=
    Stage.events_runs (Markup.read markup).events [] (.initial setting ledger) (.initial setting)
  have hextends := hruns.extends_ledger hembed
  change ledger.Extends _ at hextends
  rw [convertWith]
  generalize Draw.events setting embed (Markup.read markup).events (.initial setting ledger) = drawn
    at hextends ⊢
  obtain ⟨result, drawing⟩ := drawn
  cases result with
  | error failure => exact hextends
  | ok result =>
    cases (Markup.read markup).errorLine with
    | none => exact hextends
    | some line => exact hextends

/-- How the documents in a document are drawn where documents may nest to a number of levels. -/
def Embedding.nested : (levels : Nat) → Option (Embedding α)
  | 0 => none
  | levels + 1 => some (convertNested levels)

theorem convertNested_eq (levels : Nat) :
    (convertNested levels : Embedding α) = convertWith (Embedding.nested levels) := by
  cases levels <;> rfl

theorem nested_induction {P : Embedding α → Prop}
    (h : ∀ embed : Option (Embedding α), (∀ embed' ∈ embed, P embed') → P (convertWith embed)) (levels : Nat) :
    ∀ embed ∈ (Embedding.nested levels : Option (Embedding α)), P embed := by
  intro embed hmem
  cases levels with
  | zero => cases hmem
  | succ levels =>
    cases hmem
    exact convertNested_induction h levels

theorem nested_extends (levels : Nat) :
    ∀ embed ∈ (Embedding.nested levels : Option (Embedding α)), embed.Extends :=
  nested_induction (fun _ => convertWith_extends) levels

end SvgPage
