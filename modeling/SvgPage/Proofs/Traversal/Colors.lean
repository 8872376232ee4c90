import SvgPage.Proofs.Drawing.Colors
import SvgPage.Proofs.Traversal.Behind
import SvgPage.Proofs.Traversal.Rules

namespace SvgPage

variable {α β γ : Type} [Scalar α]

/-- All colors of a drawing are in range: those that are registered, those of its document, and those that are
    written for the documents in it. -/
structure Drawing.InRange (drawing : Drawing α) : Prop where
  ledger : drawing.ledger.All Resource.InRange
  document : drawing.document.InRange
  embedded : Operator.AllInRange (DocumentTree.operatorsOfAll drawing.embedded)

/-- An action that keeps all colors of a drawing in range, whether it fails or not. -/
def Draw.KeepsColors (action : Draw α β) : Prop := ∀ drawing, drawing.InRange → (action drawing).2.InRange

/-- A way to draw embedded documents with colors in range. -/
structure Embedding.KeepsColors (embed : Embedding α) : Prop where
  ledger : ∀ setting markup ledger, ledger.All Resource.InRange →
    (embed setting markup ledger).2.All Resource.InRange
  operators : ∀ setting markup ledger, ledger.All Resource.InRange →
    ∀ tree after, embed setting markup ledger = (.ok tree, after) → Operator.AllInRange tree.operators

namespace Draw.KeepsColors

variable {action : Draw α β}

theorem pure (result : β) : KeepsColors (pure result : Draw α β) := fun _ h => h

theorem throw (failure : Failure α) : KeepsColors (throw failure : Draw α β) := fun _ h => h

theorem bind {next : β → Draw α γ} (haction : KeepsColors action) (hnext : ∀ result, KeepsColors (next result)) :
    KeepsColors (action >>= next) := by
  intro drawing hdrawing
  have hafter := haction drawing hdrawing
  obtain ⟨result, after, hok, hbind⟩ | ⟨failure, after, herror, hbind⟩ := bind_cases action next drawing
  · rw [hok] at hafter
    rw [hbind]
    exact hnext result after hafter
  · rw [herror] at hafter
    rw [hbind]
    exact hafter

theorem document_bind {next : Document α → Draw α β} (hnext : ∀ document, KeepsColors (next document)) :
    KeepsColors (document >>= next) := fun drawing hdrawing => hnext drawing.document drawing hdrawing

theorem update {handler : Document α → StateM (Ledger α) (Document α × β)}
    (h : ∀ document, document.InRange → Colors (handler document) Colors.Opened) : KeepsColors (Draw.update handler) := by
  intro drawing hdrawing
  have hhandler := h drawing.document hdrawing.document
  exact ⟨hhandler.ledger hdrawing.ledger, hhandler.result drawing.ledger, hdrawing.embedded⟩

/-- A change of the document that leaves what is written and the gradients alone. -/
theorem change {change : Document α → Document α} (houtput : ∀ document, (change document).output = document.output)
    (hgradients : ∀ document, (change document).gradients = document.gradients) : KeepsColors (Draw.change change) :=
  fun _ h => ⟨h.ledger, h.document.of_eq (houtput _) (hgradients _), h.embedded⟩

theorem characters (text : String) : KeepsColors (Draw.characters text : Draw α Unit) :=
  fun _ h => ⟨h.ledger, h.document.addText text, h.embedded⟩

theorem whileExpanding {action : Draw α Unit} (haction : KeepsColors action) (id : String) :
    KeepsColors (Draw.whileExpanding id action) := by
  intro drawing hdrawing
  have hran := haction { drawing with document := drawing.document.beginExpansion id }
    ⟨hdrawing.ledger, hdrawing.document.of_eq rfl rfl, hdrawing.embedded⟩
  exact ⟨hran.ledger, hran.document.of_eq rfl rfl, hran.embedded⟩

theorem embedDocument {embed : Embedding α} (hembed : embed.KeepsColors) (inner : Setting α) (markup : String) :
    KeepsColors (Draw.embedDocument embed inner markup) := by
  intro drawing hdrawing
  have hledger := hembed.ledger inner markup drawing.ledger hdrawing.ledger
  have hoperators := hembed.operators inner markup drawing.ledger hdrawing.ledger
  simp only [Draw.embedDocument]
  generalize embed inner markup drawing.ledger = embedded at hledger hoperators ⊢
  obtain ⟨result, ledger⟩ := embedded
  cases result with
  | error failure => exact ⟨hledger, hdrawing.document, hdrawing.embedded⟩
  | ok tree =>
    have htree : Operator.AllInRange (DocumentTree.operatorsOfAll [tree]) := by
      rw [DocumentTree.operatorsOfAll, DocumentTree.operatorsOfAll, List.append_nil]
      exact hoperators tree ledger rfl
    refine ⟨hledger, hdrawing.document, ?_⟩
    rw [DocumentTree.operatorsOfAll_append]
    exact hdrawing.embedded.append htree

theorem openRoot (setting : Setting α) (name : String) (attributes : Attributes) :
    KeepsColors (Draw.openRoot setting name attributes) := by
  intro drawing hdrawing
  have hdocument : ({ drawing.document with rootSeen := true } : Document α).InRange :=
    hdrawing.document.of_eq rfl rfl
  obtain ⟨hledger, hopened⟩ := hdrawing.ledger.openRoot setting hdocument attributes
  unfold Draw.openRoot
  dsimp only
  split
  · exact hdrawing
  · generalize (Document.openRoot setting { drawing.document with rootSeen := true } attributes).run drawing.ledger =
      opened at hledger hopened ⊢
    obtain ⟨result, ledger⟩ := opened
    cases result with
    | error failure => exact ⟨hledger, hdocument, hdrawing.embedded⟩
    | ok opened => exact ⟨hledger, (hopened opened rfl).of_eq rfl rfl, hdrawing.embedded⟩

theorem rules [Scalar.Bounded α] [Scalar.Complemented α] (setting : Setting α) {embed : Option (Embedding α)}
    (hembed : ∀ embed' ∈ embed, embed'.KeepsColors) : Rules setting embed fun _ action => KeepsColors action where
  pure := pure
  throw := throw
  bind := bind
  document_bind _ := document_bind
  characters := characters
  push _ := change (fun _ => rfl) fun _ => rfl
  whileExpanding id haction := whileExpanding haction id
  embedDocument embed' hmem := embedDocument (hembed embed' hmem)
  openRoot := openRoot setting
  beginTag name attributes := update fun document hdocument => Colors.beginTag setting hdocument name attributes
  endElement element outer name := by
    refine update fun document hdocument => ?_
    have hpopped : ({ document with openElements := outer } : Document α).InRange := hdocument.of_eq rfl rfl
    exact (Colors.endElement setting hpopped element name).bind fun _ hended => .pure hended

end Draw.KeepsColors

namespace Embedding.KeepsColors

variable [Scalar.Bounded α] [Scalar.Complemented α]

theorem convertWith {embed : Option (Embedding α)} (hembed : ∀ embed' ∈ embed, embed'.KeepsColors) :
    KeepsColors (SvgPage.convertWith embed) := by
  have hdrawn (setting : Setting α) (markup : String) {ledger : Ledger α} (hledger : ledger.All Resource.InRange) :
      (Draw.events setting embed (Markup.read markup).events (.initial setting ledger)).2.InRange :=
    (Draw.KeepsColors.rules setting hembed).events _ _ ⟨hledger, .initial setting, .nil⟩
  constructor
  · intro setting markup ledger hledger
    have hafter := (hdrawn setting markup hledger).ledger
    rw [SvgPage.convertWith]
    generalize Draw.events setting embed (Markup.read markup).events (.initial setting ledger) = drawn at hafter ⊢
    obtain ⟨result, drawing⟩ := drawn
    cases result with
    | error failure => exact hafter
    | ok result =>
      cases (Markup.read markup).errorLine with
      | none => exact hafter
      | some line => exact hafter
  · intro setting markup ledger hledger tree after h
    obtain ⟨drawing, hevents, -, rfl, rfl⟩ := convertWith_inv h
    have hfinal := hdrawn setting markup hledger
    rw [hevents] at hfinal
    exact hfinal.document.output.append hfinal.embedded

theorem convertNested (levels : Nat) : KeepsColors (SvgPage.convertNested levels : Embedding α) :=
  convertNested_induction (fun _ => convertWith) levels

theorem convertDocument : KeepsColors (SvgPage.convertDocument : Embedding α) where
  ledger setting := (convertNested setting.options.nesting.documentLevels).ledger setting
  operators setting := (convertNested setting.options.nesting.documentLevels).operators setting

end Embedding.KeepsColors

end SvgPage
