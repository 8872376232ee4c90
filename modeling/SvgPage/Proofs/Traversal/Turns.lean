import SvgPage.Proofs.Drawing.Sheet
import SvgPage.Proofs.Traversal.Handles

namespace SvgPage

open Document

variable {α : Type}

/-- A way to draw embedded documents that keeps all resources that have been registered. -/
def Embedding.Extends (embed : Embedding α) : Prop :=
  ∀ setting markup ledger, Ledger.Extends ledger (embed setting markup ledger).2

variable [Scalar α]

/-- All that handling an event which does not fail can do to a drawing, with what it registers. -/
inductive Turns (setting : Setting α) (drawing next : Drawing α) : MarkupEvent → Prop
  | text {text} (hnext : next = { drawing with document := drawing.document.addText text }) :
      Turns setting drawing next (.text text)
  | endTag {name element outer} (helements : drawing.document.openElements = element :: outer)
      (hnext :
        let ended := { drawing.document with openElements := outer }.endElement setting element name
          drawing.ledger
        next = { drawing with document := ended.1, ledger := ended.2 }) :
      Turns setting drawing next (.endTag name)
  | root {name attributes opened closing ledger} (hroot : drawing.document.rootSeen = false)
      (hname : ElementKind.ofName name = .svg)
      (hopened : ({ drawing.document with rootSeen := true }.openRoot setting attributes).run drawing.ledger =
        (.ok (opened, closing), ledger))
      (hnext : next = { drawing with document := opened.push ⟨closing, false, false⟩, ledger }) :
      Turns setting drawing next (.startTag name attributes)
  | element {name attributes} (hroot : drawing.document.rootSeen = true)
      (hnext :
        let begun := drawing.document.beginTag setting name attributes drawing.ledger
        begun.2.Extends next.ledger ∧
          next.document =
            begun.1.1.push ⟨begun.1.2.opening.closing, begun.1.2.recorded, begun.1.2.defines⟩) :
      Turns setting drawing next (.startTag name attributes)
  | use {name attributes id tags} (hroot : drawing.document.rootSeen = true)
      (hnext :
        let begun := drawing.document.beginTag setting name attributes drawing.ledger
        begun.1.2.opening = .expansion id tags ∧ next.ledger = begun.2 ∧
          next.document = begun.1.1.beginExpansion id) :
      Turns setting drawing next (.startTag name attributes)

namespace Stage

variable {setting : Setting α} {embed : Option (Embedding α)} {stage next : Stage α}

theorem startTag_turns {name : String} {attributes : Attributes} (hembed : ∀ embed' ∈ embed, embed'.Extends)
    (h : (stage.startTag setting name attributes).resolve embed = some (.ok next)) :
    Turns setting stage.drawing next.drawing (.startTag name attributes) := by
  rw [startTag] at h
  split at h
  next hroot =>
    cases hbegun : stage.document.beginTag setting name attributes stage.drawing.ledger with
    | mk result ledger =>
      obtain ⟨document, ⟨opening, recorded, defines⟩⟩ := result
      have hbegun' : stage.drawing.document.beginTag setting name attributes stage.drawing.ledger = _ := hbegun
      rw [hbegun] at h
      cases opening with
      | element closing =>
        cases h
        refine .element hroot ?_
        rw [hbegun']
        exact ⟨List.prefix_refl _, rfl⟩
      | expansion id tags =>
        cases h
        have hopening : (stage.drawing.document.beginTag setting name attributes
            stage.drawing.ledger).1.2.opening = .expansion id tags := by
          rw [hbegun']
        refine .use hroot ⟨hopening, ?_, ?_⟩
        all_goals rw [hbegun']; rfl
      | embedding inner markup =>
        cases embed with
        | none =>
          cases h
          refine .element hroot ?_
          rw [hbegun']
          exact ⟨List.prefix_refl _, rfl⟩
        | some embed =>
          have hextends := hembed embed rfl inner markup ledger
          simp only [afterBegun, Progress.resolve] at h
          split at h
          next tree after hembedded =>
            cases h
            refine .element hroot ?_
            rw [hbegun']
            rw [hembedded] at hextends
            exact ⟨hextends, rfl⟩
          · cases h
  next hroot =>
    rw [advanceBy] at h
    split at h
    next drawing hdrawing =>
      cases h
      rw [Draw.openRoot] at hdrawing
      split at hdrawing
      · cases hdrawing
      next hname =>
        dsimp only at hdrawing
        split at hdrawing
        · cases hdrawing
        next opened closing ledger hopened =>
          cases hdrawing
          exact .root (Bool.eq_false_iff.2 hroot) (by simpa using hname) hopened rfl
    · cases h

/-- A step that does not fail ends an expansion, or handles an event. -/
theorem step_turns (hembed : ∀ embed' ∈ embed, embed'.Extends)
    (h : (stage.step setting).resolve embed = some (.ok next)) :
    (∃ expansion outer, stage.expansions = expansion :: outer ∧ stage.fetch = none ∧
        next.drawing = { stage.drawing with
          document := (stage.document.endExpansion expansion.id).push expansion.element }) ∨
      ∃ event fetched, stage.fetch = some (event, fetched) ∧
        Turns setting fetched.drawing next.drawing event := by
  rw [step] at h
  split at h
  next event fetched hfetch =>
    refine .inr ⟨event, fetched, hfetch, ?_⟩
    cases event with
    | startTag name attributes => exact startTag_turns hembed h
    | endTag name =>
      cases helements : fetched.drawing.document.openElements with
      | nil =>
        rw [handle, advanceBy, Draw.endTag_nil setting name helements] at h
        cases h
      | cons element outer =>
        rw [handle, advanceBy, Draw.endTag_cons setting name helements] at h
        cases h
        exact .endTag helements rfl
    | text text =>
      cases h
      exact .text rfl
  next hfetch =>
    obtain ⟨expansion, outer, hexpansions, hrest⟩ | ⟨hexpansions, -⟩ := fetch_eq_none hfetch
    · rw [hexpansions] at h
      cases h
      exact .inl ⟨expansion, outer, hexpansions, hfetch, rfl⟩
    · rw [hexpansions] at h
      cases h

end Stage

end SvgPage
