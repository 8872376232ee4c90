import SvgPage.Converter
import SvgPage.Proofs.Traversal.Transforms

namespace SvgPage

open Document
open ContentState (between)

variable {α : Type} [Scalar α]

namespace Stage

variable {setting : Setting α} {embed : Option (Embedding α)} {events : List MarkupEvent} {stage : Stage α}

/-- What has been written of a well-formed document at any of its stages. -/
theorem Reached.written (h : Reached setting embed events stage) (hdocument : MarkupEvent.IsDocument events) :
    Placed events stage ∧ Written setting events stage.document := by
  obtain ⟨ledger, hruns⟩ := h
  obtain ⟨-, hplaced, hwritten⟩ := hruns.induction (P := fun stage =>
      Sound [] [] [] 0 [] stage ∧ Placed events stage ∧ Written setting events stage.document)
    ⟨.initial ledger hdocument.openAfter, .initial setting ledger events, .unopened rfl rfl rfl rfl⟩
    fun stage next ⟨hsound, hplaced, hwritten⟩ hpasses =>
      ⟨hsound.passes hpasses, hplaced.passes hdocument hsound hpasses,
        hpasses.written hplaced hdocument hwritten⟩
  exact ⟨hplaced, hwritten⟩

end Stage

namespace Canvas

/-- What is read up to any place of a stream that can be read. -/
theorem exists_readAll_of_append {resources : List (Resource α)} {canvas last : Canvas α}
    {first second : List (Operator α)} (h : canvas.readAll resources (first ++ second) = some last) :
    ∃ next, canvas.readAll resources first = some next := by
  rw [readAll_append] at h
  obtain ⟨next, hnext, -⟩ := Option.bind_eq_some_iff.1 h
  exact ⟨next, hnext⟩

end Canvas

namespace DocumentTree

end DocumentTree

namespace Exact

/-- A converter that finds the same square behind every name. -/
def converter : Converter Rat where
  options := ⟨96, 0, .ofNumber (2 : Rat), fun _ =>
    some (Utf8.encode "<svg width=\"4\" height=\"4\"><rect width=\"4\" height=\"4\"/></svg>")⟩

/-- A document with an image in a group that is clipped and covers half of what lies under it. -/
def framed : String :=
  "<svg width=\"8\" height=\"8\"><clipPath id=\"c\"><rect width=\"1\" height=\"1\"/></clipPath>" ++
    "<g opacity=\"0.5\" clip-path=\"url(#c)\"><image width=\"4\" height=\"4\" href=\"a.svg\"/></g></svg>"

end Exact

namespace Converter

omit [Scalar α] in
theorem eq_ok {result : Except (Failure α) Nat × Converter α} {handle : Nat}
    (h : result.1.toOption = some handle) : result = (.ok handle, result.2) := by
  obtain ⟨outcome, after⟩ := result
  cases outcome with
  | error failure => cases h
  | ok handle =>
    cases h
    rfl

theorem convert_inv {converter after : Converter α} {source : String} {x y pageHeight : α} {size : Size α}
    {handle : Nat} (h : converter.convert source x y size pageHeight = (.ok handle, after)) :
    ∃ markup tree ledger,
      convertDocument (setting converter.options x y size pageHeight) markup converter.ledger =
        (.ok tree, ledger) ∧
      after.render handle = .ok tree.operators ∧ after.ledger.resources = ledger.resources := by
  rw [convert] at h
  cases hsource : readSource converter.options.load source with
  | error failure =>
    rw [hsource] at h
    cases h
  | ok markup =>
    simp only [hsource] at h
    split at h
    · cases h
    · split at h
      · cases h
      next tree ledger hconverted =>
        cases h
        refine ⟨markup, tree, ledger, hconverted, ?_, rfl⟩
        have hpositive : ¬((converter.documents.size + 1 : Nat) : Int) ≤ 0 := by omega
        have hindex : (((converter.documents.size + 1 : Nat) : Int) - 1).toNat = converter.documents.size := by
          omega
        simp only [render, if_neg hpositive, hindex, Array.getElem?_push_size]

end Converter

end SvgPage
