import SvgPage.Converter
import SvgPage.Proofs.Traversal.Behind

namespace SvgPage

variable {α : Type}

/-- A call of a converter. -/
inductive Call (α : Type) where
  | convert (source : String) (x y : α) (size : Size α) (pageHeight : α)
  | render (handle : Int)

/-- What a converter answers a call. -/
inductive Answer (α : Type) where
  | converted (result : Except (Failure α) Nat)
  | rendered (result : Except (Failure α) (List (Operator α)))

namespace Answer

/-- The handle of a document that has been converted. -/
def handle? : Answer α → Option Nat
  | converted (.ok handle) => some handle
  | _ => none

/-- The handles among the answers to calls, in order. -/
def handles (answers : List (Answer α)) : List Nat := answers.filterMap handle?

theorem handles_cons (answer : Answer α) (rest : List (Answer α)) :
    handles (answer :: rest) = answer.handle?.toList ++ handles rest := by
  rw [handles, List.filterMap_cons]
  cases answer.handle? <;> rfl

end Answer

namespace Converter

/-- A converter that has not been called. -/
def fresh (options : Options α) : Converter α where
  options

theorem fresh_count (options : Options α) : (fresh options).ledger.count = fun _ => 0 := rfl

/-- The names of all resources that have been registered, in order. -/
def names (converter : Converter α) : List ResourceName := Resource.names converter.ledger.resources.toList

/-- What a converter has converted and registered is kept by the other one. -/
structure Extends (before after : Converter α) : Prop where
  options : after.options = before.options
  documents : before.documents.toList <+: after.documents.toList
  ledger : before.ledger.Extends after.ledger

namespace Extends

variable {first second third : Converter α}

@[refl] theorem refl (converter : Converter α) : converter.Extends converter :=
  ⟨rfl, List.prefix_refl _, List.prefix_refl _⟩

@[trans] theorem trans (h : first.Extends second) (hnext : second.Extends third) : first.Extends third :=
  ⟨hnext.options.trans h.options, h.documents.trans hnext.documents, h.ledger.trans hnext.ledger⟩

theorem names (h : first.Extends second) : first.names <+: second.names := by
  obtain ⟨later, hlater⟩ := h.ledger
  rw [Converter.names, Converter.names, ← hlater, Resource.names_append]
  exact List.prefix_append _ _

end Extends

/-- What a conversion does. `outcome` is what the document comes to where nothing has been registered before, and
    `added` is what is registered for it, which the document names. -/
structure Converts (outcome : Except (Failure α) (DocumentTree α)) (added : List (Resource α)) (before : Converter α)
    (conversion : Except (Failure α) Nat × Converter α) : Prop where
  result : conversion.1 = outcome.map fun _ => before.documents.size + 1
  options : conversion.2.options = before.options
  documents : conversion.2.documents.toList =
    before.documents.toList ++ (outcome.map (DocumentTree.renumber before.ledger.count)).toOption.toList
  resources : conversion.2.ledger.resources.toList = before.ledger.resources.toList ++ added
  names : ∀ tree, outcome = .ok tree →
    (tree.operators.filterMap Operator.resource?).Perm (Resource.names added)

namespace Converts

variable {outcome : Except (Failure α) (DocumentTree α)} {added : List (Resource α)} {before : Converter α}
  {conversion : Except (Failure α) Nat × Converter α}

theorem extends_before (h : Converts outcome added before conversion) : before.Extends conversion.2 where
  options := h.options
  documents := ⟨_, h.documents.symm⟩
  ledger := ⟨_, h.resources.symm⟩

/-- A conversion that succeeds takes the next handle. -/
theorem of_ok (h : Converts outcome added before conversion) {handle : Nat} (hok : conversion.1 = .ok handle) :
    handle = before.documents.size + 1 ∧ ∃ tree, outcome = .ok tree := by
  rw [h.result] at hok
  cases outcome with
  | error failure => cases hok
  | ok tree =>
    cases hok
    exact ⟨rfl, tree, rfl⟩

/-- A conversion that fails leaves the documents as they are. -/
theorem of_error (h : Converts outcome added before conversion) {failure : Failure α}
    (herror : conversion.1 = .error failure) :
    outcome = .error failure ∧ conversion.2.documents = before.documents := by
  have hdocuments := h.documents
  rw [h.result] at herror
  cases outcome with
  | error failure =>
    cases herror
    exact ⟨rfl, Array.toList_inj.1 (hdocuments.trans (List.append_nil _))⟩
  | ok tree => cases herror

/-- What is registered for a document is numbered from where the converter has come to. -/
theorem names_eq (h : Converts outcome added before conversion) : conversion.2.names =
    before.names ++ (Resource.names added).map (ResourceName.shift before.ledger.count) := by
  rw [Converter.names, Converter.names, h.resources, Resource.names_append]
  rfl

end Converts

variable [Scalar α]

/-- Nothing that has been converted before has an influence on a conversion, except on the numbers of resources. -/
theorem convert_converts (options : Options α) (source : String) (x y : α) (size : Size α) (pageHeight : α) :
    ∃ (outcome : Except (Failure α) (DocumentTree α)) (added : List (Resource α)),
      ∀ converter : Converter α, converter.options = options →
        Converts outcome added converter (converter.convert source x y size pageHeight) := by
  have hfailed (failure : Failure α) (converter : Converter α)
      (h : converter.convert source x y size pageHeight = (.error failure, converter)) :
      Converts (.error failure) [] converter (converter.convert source x y size pageHeight) := by
    rw [h]
    exact ⟨rfl, rfl, (List.append_nil _).symm, (List.append_nil _).symm, fun tree hok => nomatch hok⟩
  cases hsource : readSource options.load source with
  | error failure =>
    refine ⟨.error failure, [], fun converter hoptions => hfailed failure converter ?_⟩
    simp only [convert, hoptions, hsource]
  | ok markup =>
    by_cases hempty : (Text.trim markup).isEmpty = true
    · refine ⟨.error .emptySource, [], fun converter hoptions => hfailed .emptySource converter ?_⟩
      simp only [convert, hoptions, hsource, hempty, if_true]
    · cases hfresh : convertDocument (setting options x y size pageHeight) markup {} with
      | mk outcome added =>
        have hbehind (ledger : Ledger α) := Embedding.Accounts.convertDocument.behind
          (setting options x y size pageHeight) markup ledger {}
        simp only [Ledger.append_empty, hfresh] at hbehind
        refine ⟨outcome, added.resources.toList, fun converter hoptions => ?_⟩
        have hnames (tree : DocumentTree α) (hok : outcome = .ok tree) :
            (tree.operators.filterMap Operator.resource?).Perm (Resource.names added.resources.toList) := by
          subst hok
          exact Embedding.Accounts.convertDocument.names _ markup tree added hfresh
        simp only [convert, hoptions, hsource, hempty, Bool.false_eq_true, if_false, hbehind]
        cases outcome with
        | error failure =>
          exact ⟨rfl, hoptions.symm, (List.append_nil _).symm, Array.toList_append, hnames⟩
        | ok tree => exact ⟨rfl, hoptions.symm, Array.toList_push, Array.toList_append, hnames⟩

section Render

variable {converter : Converter α}

omit [Scalar α] in
theorem render_eq_ok {place : Nat} {tree : DocumentTree α} (h : converter.documents.toList[place]? = some tree) :
    converter.render (place + 1 : Nat) = .ok tree.operators := by
  have hpositive : ¬((place + 1 : Nat) : Int) ≤ 0 := by omega
  have hplace : (((place + 1 : Nat) : Int) - 1).toNat = place := by omega
  rw [Array.getElem?_toList] at h
  rw [render, if_neg hpositive, hplace, h]

omit [Scalar α] in
/-- A document is rendered in the same way as long as the converter lasts. -/
theorem Converts.render_eq {outcome : Except (Failure α) (DocumentTree α)} {added : List (Resource α)}
    {before last : Converter α} {conversion : Except (Failure α) Nat × Converter α}
    (h : Converts outcome added before conversion) {tree : DocumentTree α} (hok : outcome = .ok tree)
    (hlast : conversion.2.Extends last) :
    last.render (before.documents.size + 1 : Nat) =
      .ok (tree.operators.map (Operator.renumber before.ledger.count)) := by
  obtain ⟨later, hlater⟩ := hlast.documents
  have hplace : last.documents.toList[before.documents.size]? = some (tree.renumber before.ledger.count) := by
    rw [← hlater, h.documents, hok, List.append_assoc, List.getElem?_append_right (Nat.le_of_eq Array.length_toList)]
    simp [Except.map, Except.toOption]
  rw [render_eq_ok hplace, DocumentTree.operators_renumber]

omit [Scalar α] in
theorem render_eq_error {handle : Int}
    (h : ∀ returned ∈ List.range' 1 converter.documents.size, (returned : Int) ≠ handle) :
    converter.render handle = .error (.unknownHandle handle) := by
  rw [render]
  split
  · rfl
  next hpositive =>
    have hbeyond : converter.documents.size ≤ (handle - 1).toNat := by
      by_contra hwithin
      refine h handle.toNat (List.mem_range'_1.2 ?_) ?_ <;> omega
    rw [Array.getElem?_eq_none hbeyond]

end Render

/-- A converter after a call, with what it answers. -/
def call (converter : Converter α) : Call α → Answer α × Converter α
  | .convert source x y size pageHeight =>
    let (result, next) := converter.convert source x y size pageHeight
    (.converted result, next)
  | .render handle => (.rendered (converter.render handle), converter)

/-- A converter after several calls, with what it answers them. -/
def run (converter : Converter α) : List (Call α) → List (Answer α) × Converter α
  | [] => ([], converter)
  | first :: rest =>
    let (answer, next) := converter.call first
    let (answers, last) := next.run rest
    (answer :: answers, last)

theorem run_cons (converter : Converter α) (call : Call α) (rest : List (Call α)) :
    converter.run (call :: rest) =
      ((converter.call call).1 :: ((converter.call call).2.run rest).1, ((converter.call call).2.run rest).2) := rfl

theorem run_append (converter : Converter α) (first second : List (Call α)) :
    converter.run (first ++ second) =
      ((converter.run first).1 ++ ((converter.run first).2.run second).1, ((converter.run first).2.run second).2) := by
  induction first generalizing converter with
  | nil => rfl
  | cons call rest ih =>
    rw [List.cons_append, run_cons, run_cons, ih, List.cons_append]

theorem call_extends (converter : Converter α) (call : Call α) : converter.Extends (converter.call call).2 := by
  cases call with
  | convert source x y size pageHeight =>
    obtain ⟨outcome, added, hconverts⟩ := convert_converts converter.options source x y size pageHeight
    exact (hconverts converter rfl).extends_before
  | render handle => exact .refl converter

/-- Nothing that has been converted or registered is taken back. -/
theorem run_extends (converter : Converter α) (calls : List (Call α)) : converter.Extends (converter.run calls).2 := by
  induction calls generalizing converter with
  | nil => exact .refl converter
  | cons call rest ih => exact (converter.call_extends call).trans (ih _)

/-- A call gives the next handle to the document that it converts, if it converts one. -/
theorem handles_call (converter : Converter α) (call : Call α) :
    ∃ converted, (converter.call call).1.handle?.toList = List.range' (converter.documents.size + 1) converted ∧
      (converter.call call).2.documents.size = converter.documents.size + converted := by
  cases call with
  | convert source x y size pageHeight =>
    obtain ⟨outcome, added, hconverts⟩ := convert_converts converter.options source x y size pageHeight
    have hconverted := hconverts converter rfl
    have hsize := congrArg List.length hconverted.documents
    rw [Array.length_toList, List.length_append, Array.length_toList] at hsize
    simp only [Converter.call, hconverted.result, hsize]
    cases outcome with
    | error failure => exact ⟨0, rfl, rfl⟩
    | ok tree => exact ⟨1, rfl, rfl⟩
  | render handle => exact ⟨0, rfl, rfl⟩

/-- The documents that are converted get one handle after the other. -/
theorem handles_run (converter : Converter α) (calls : List (Call α)) :
    ∃ converted, Answer.handles (converter.run calls).1 = List.range' (converter.documents.size + 1) converted ∧
      (converter.run calls).2.documents.size = converter.documents.size + converted := by
  induction calls generalizing converter with
  | nil => exact ⟨0, rfl, rfl⟩
  | cons call rest ih =>
    obtain ⟨first, hfirst, hsize⟩ := converter.handles_call call
    obtain ⟨others, hothers, hlast⟩ := ih (converter.call call).2
    refine ⟨first + others, ?_, ?_⟩
    · rw [run_cons, Answer.handles_cons, hfirst, hothers, hsize, Nat.add_right_comm, List.range'_append_1]
    · rw [run_cons, hlast, hsize, Nat.add_assoc]

/-- What a conversion in the midst of other calls comes to, and what it would come to without them. -/
theorem run_convert (start : Converter α) (before : List (Call α)) (source : String) (x y : α) (size : Size α)
    (pageHeight : α) (after : List (Call α)) :
    let earlier := (start.run before).2
    let conversion := earlier.convert source x y size pageHeight
    conversion.2.Extends (start.run (before ++ .convert source x y size pageHeight :: after)).2 ∧
      ∃ outcome added, Converts outcome added start (start.convert source x y size pageHeight) ∧
        Converts outcome added earlier conversion := by
  intro earlier conversion
  have hoptions : earlier.options = start.options := (start.run_extends before).options
  obtain ⟨outcome, added, hconverts⟩ := convert_converts start.options source x y size pageHeight
  refine ⟨?_, outcome, added, hconverts start rfl, hconverts earlier hoptions⟩
  rw [run_append, run_cons]
  exact conversion.2.run_extends after

end Converter

end SvgPage
