import Mathlib.Logic.Function.Iterate
import SvgPage.Drawing.Convert
import SvgPage.Proofs.Traversal.Run

namespace SvgPage

open Document

/-- A document that is being drawn: its setting, the line where it is no longer well-formed, if there is
    one, and how far it has been drawn. -/
structure Activation (α : Type) where
  setting : Setting α
  errorLine : Option Nat
  stage : Stage α

/-- A document that waits for the one in an image, and the element that the image will be. -/
structure Waiting (α : Type) where
  activation : Activation α
  element : OpenElement α

/-- The state of a conversion: the document that is being drawn inside those that wait for it, innermost
    first, or the result of the conversion. -/
inductive Conversion (α : Type) where
  | drawing (current : Activation α) (waiting : List (Waiting α))
  | finished (result : Except (Failure α) (DocumentTree α) × Ledger α)

variable {α : Type}

/-- What a document comes to once all its events have been handled. -/
def Activation.result (activation : Activation α) : Except (Failure α) (DocumentTree α) × Ledger α :=
  let drawing := activation.stage.drawing
  match activation.errorLine with
  | some line => (.error (.malformed line), drawing.ledger)
  | none => (.ok (.node activation.setting drawing.document drawing.embedded), drawing.ledger)

/-- Goes on with a document around one that has been drawn. -/
def Waiting.resume (waiting : Waiting α) (tree : DocumentTree α) (ledger : Ledger α) : Activation α :=
  { waiting.activation with
    stage := waiting.activation.stage.resume ledger (waiting.activation.stage.drawing.embedded ++ [tree])
      waiting.element }

namespace Conversion

/-- The documents that are being drawn, innermost first. -/
def activations : Conversion α → List (Activation α)
  | drawing current waiting => current :: waiting.map Waiting.activation
  | finished _ => []

/-- Hands the result of a document to the one around it. A failure ends them all. -/
def deliver : List (Waiting α) → Except (Failure α) (DocumentTree α) × Ledger α → Conversion α
  | _, (.error failure, ledger) => finished (.error failure, ledger)
  | [], (.ok tree, ledger) => finished (.ok tree, ledger)
  | waiting :: outer, (.ok tree, ledger) => drawing (waiting.resume tree ledger) outer

variable [Scalar α]

/-- Begins to draw a document inside others. -/
def enter (setting : Setting α) (markup : String) (ledger : Ledger α) (waiting : List (Waiting α)) :
    Conversion α :=
  let reading := Markup.read markup
  drawing ⟨setting, reading.errorLine, .initial setting ledger reading.events⟩ waiting

/-- Handles one event of the innermost document, which may begin or end a document. No step refers to a
    bound on how many steps there are, or on how deep documents and uses nest. -/
def step : Conversion α → Conversion α
  | finished result => finished result
  | drawing ⟨setting, errorLine, stage⟩ waiting =>
    match stage.step setting with
    | .next stage => drawing ⟨setting, errorLine, stage⟩ waiting
    | .embedding inner markup stage element =>
      enter inner markup stage.drawing.ledger (⟨⟨setting, errorLine, stage⟩, element⟩ :: waiting)
    | .failed failure ledger => finished (.error failure, ledger)
    | .ended => deliver waiting (Activation.result ⟨setting, errorLine, stage⟩)

/-- One state of a conversion is reached from another in finitely many steps. -/
def Leads (first last : Conversion α) : Prop := ∃ steps, step^[steps] first = last

namespace Leads

variable {first second third : Conversion α}

theorem refl (state : Conversion α) : Leads state state := ⟨0, rfl⟩

theorem single (h : first.step = second) : Leads first second := ⟨1, h⟩

theorem trans (hfirst : Leads first second) (hsecond : Leads second third) : Leads first third := by
  obtain ⟨few, rfl⟩ := hfirst
  obtain ⟨more, rfl⟩ := hsecond
  exact ⟨more + few, Function.iterate_add_apply step more few first⟩

end Leads

/-- A conversion where a document has come to a stage or failed. -/
def goOn (setting : Setting α) (errorLine : Option Nat) (waiting : List (Waiting α)) :
    Outcome α → Conversion α
  | .ok stage => drawing ⟨setting, errorLine, stage⟩ waiting
  | .error (failure, ledger) => finished (.error failure, ledger)

/-- All documents in a document with the given setting are drawn by `embed`, which a conversion does step
    by step. -/
def Embeds (setting : Setting α) (embed : Option (Embedding α)) : Prop :=
  ∀ stage inner markup outer element, Stage.step setting stage = .embedding inner markup outer element →
    ∃ draw, embed = some draw ∧ ∀ ledger waiting,
      Leads (enter inner markup ledger waiting) (deliver waiting (draw inner markup ledger))

variable {setting : Setting α} {embed : Option (Embedding α)}

theorem leads_of_step (hembeds : Embeds setting embed) (errorLine : Option Nat) (waiting : List (Waiting α))
    {stage : Stage α} {outcome : Outcome α} (h : (stage.step setting).resolve embed = some outcome) :
    Leads (drawing ⟨setting, errorLine, stage⟩ waiting) (goOn setting errorLine waiting outcome) := by
  cases hstep : stage.step setting with
  | next stage =>
    rw [hstep] at h
    cases h
    apply Leads.single
    simp only [step, hstep]
    rfl
  | embedding inner markup outer element =>
    obtain ⟨draw, rfl, hdraw⟩ := hembeds stage inner markup outer element hstep
    have hentered : step (drawing ⟨setting, errorLine, stage⟩ waiting) =
        enter inner markup outer.drawing.ledger (⟨⟨setting, errorLine, outer⟩, element⟩ :: waiting) := by
      simp only [step, hstep]
    apply (Leads.single hentered).trans
    have hdrawn := hdraw outer.drawing.ledger (⟨⟨setting, errorLine, outer⟩, element⟩ :: waiting)
    rw [hstep, Progress.resolve] at h
    cases hresult : draw inner markup outer.drawing.ledger with
    | mk result ledger =>
      rw [hresult] at hdrawn
      simp only [hresult] at h
      cases result with
      | ok tree =>
        cases h
        exact hdrawn
      | error failure =>
        cases h
        exact hdrawn
  | failed failure ledger =>
    rw [hstep] at h
    cases h
    apply Leads.single
    simp only [step, hstep]
    rfl
  | ended =>
    rw [hstep] at h
    cases h

theorem leads_of_runs (hembeds : Embeds setting embed) (errorLine : Option Nat) (waiting : List (Waiting α))
    {stage : Stage α} {outcome : Outcome α} (h : Stage.Runs setting embed (.ok stage) outcome) :
    Leads (drawing ⟨setting, errorLine, stage⟩ waiting) (goOn setting errorLine waiting outcome) := by
  induction h with
  | refl => exact .refl _
  | tail _ hleads ih =>
    cases hleads with
    | step hstep => exact ih.trans (leads_of_step hembeds errorLine waiting hstep)

/-- Drawing a document step by step has the result of drawing it as a whole. -/
theorem convertWith_leads (hembeds : Embeds setting embed) (markup : String) (ledger : Ledger α)
    (waiting : List (Waiting α)) :
    Leads (enter setting markup ledger waiting)
      (deliver waiting (convertWith embed setting markup ledger)) := by
  have hruns : Stage.Runs setting embed _ (Stage.outcome [] [] _) :=
    Stage.events_runs (Markup.read markup).events [] (.initial setting ledger) (.initial setting)
  rw [List.append_nil] at hruns
  have hleads : Leads (enter setting markup ledger waiting) _ :=
    leads_of_runs hembeds (Markup.read markup).errorLine waiting hruns
  rw [convertWith]
  generalize Draw.events setting embed (Markup.read markup).events (.initial setting ledger) = drawn
    at hleads ⊢
  obtain ⟨result, drawing⟩ := drawn
  cases result with
  | error failure => exact hleads
  | ok result =>
    apply hleads.trans
    apply Leads.single
    cases hline : (Markup.read markup).errorLine with
    | none => rfl
    | some line => rfl

end Conversion

namespace Stage

variable [Scalar α] {setting inner : Setting α} {stage outer : Stage α} {markup : String}
  {element : OpenElement α}

/-- A document is embedded only as long as the limit allows, one level deeper than the one around it. -/
theorem step_embedding (h : stage.step setting = .embedding inner markup outer element) :
    inner.depth = setting.depth + 1 ∧ inner.options = setting.options ∧
      setting.depth < setting.options.nesting.documentLevels := by
  rw [step] at h
  split at h
  next event fetched hfetch =>
    cases event with
    | startTag name attributes =>
      rw [handle, startTag] at h
      split at h
      · have hbegun := beginTag_eq setting fetched.document name attributes fetched.drawing.ledger
        generalize fetched.document.beginTag setting name attributes fetched.drawing.ledger = result
          at h hbegun
        obtain ⟨⟨document, ⟨opening, recorded, defines⟩⟩, ledger⟩ := result
        obtain ⟨recording, -, hopens⟩ := hbegun
        cases opening with
        | element closing => cases h
        | expansion id tags => cases h
        | embedding begun text =>
          cases h
          generalize ElementKind.ofName name = kind at hopens
          cases hopens with
          | embedding markup hdepth hoptions hlimit => exact ⟨hdepth, hoptions, hlimit⟩
      · rw [advanceBy] at h
        split at h <;> cases h
    | endTag name =>
      rw [handle, advanceBy] at h
      split at h <;> cases h
    | text text => cases h
  · split at h <;> cases h

end Stage

namespace Conversion

variable [Scalar α]

/-- Drawing to a number of levels is enough for a document that leaves no more levels than that. -/
theorem convertNested_leads (levels : Nat) (setting : Setting α)
    (hlevels : setting.options.nesting.documentLevels ≤ levels + setting.depth) (markup : String)
    (ledger : Ledger α) (waiting : List (Waiting α)) :
    Leads (enter setting markup ledger waiting)
      (deliver waiting (convertNested levels setting markup ledger)) := by
  induction levels generalizing setting markup ledger waiting with
  | zero =>
    refine convertWith_leads (fun stage inner text outer element hstep => ?_) markup ledger waiting
    obtain ⟨-, -, hlimit⟩ := Stage.step_embedding hstep
    omega
  | succ levels ih =>
    refine convertWith_leads (fun stage inner text outer element hstep => ?_) markup ledger waiting
    obtain ⟨hdepth, hoptions, -⟩ := Stage.step_embedding hstep
    have hinner : inner.options.nesting.documentLevels ≤ levels + inner.depth := by
      rw [hoptions, hdepth]
      omega
    exact ⟨_, rfl, ih inner hinner text⟩

/-- Every conversion ends, with the result of drawing its document as a whole. -/
theorem convertDocument_leads (setting : Setting α) (markup : String) (ledger : Ledger α) :
    Leads (enter setting markup ledger []) (finished (convertDocument setting markup ledger)) := by
  have hleads := convertNested_leads setting.options.nesting.documentLevels setting (Nat.le_add_right _ _)
    markup ledger []
  rw [convertDocument]
  generalize convertNested setting.options.nesting.documentLevels setting markup ledger = converted
    at hleads ⊢
  obtain ⟨result, ledger⟩ := converted
  cases result with
  | ok tree => exact hleads
  | error failure => exact hleads

end Conversion

end SvgPage
