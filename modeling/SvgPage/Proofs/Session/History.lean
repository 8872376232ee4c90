import SvgPage.Proofs.Exact
import SvgPage.Proofs.Session.Calls

namespace SvgPage

namespace Exact

/-- A document with a square that covers half of what lies under it. -/
def pale : String :=
  "<svg width=\"4\" height=\"4\"><rect width=\"4\" height=\"4\" opacity=\"0.5\"/></svg>"

/-- The same without its last end tag. -/
def broken : String :=
  "<svg width=\"4\" height=\"4\"><rect width=\"4\" height=\"4\" opacity=\"0.5\"/>"

/-- Options under which uses nest twice at most and no file is found. -/
def options : Options Rat := ⟨96, 0, .ofNumber (2 : Rat), fun _ => none⟩

/-- Two conversions, of which the second one fails. -/
def attempts : List (Call Rat) := [.convert pale 0 0 ⟨0, 0⟩ 100, .convert broken 0 0 ⟨0, 0⟩ 100]

theorem second_after_attempts :
    (((Converter.fresh options).run attempts).2.convert pale 0 0 ⟨0, 0⟩ 100).1 = .ok 2 := by
  decide +kernel

end Exact

namespace Converter

variable {α : Type} [Scalar α]

/-- Documents get the handles one, two, three and so on, also where conversions between them fail. What a document
    is rendered to does not depend on what the converter has been called for before, but for the numbers of
    resources. -/
theorem independent_of_run (options : Options α) (calls : List (Call α)) :
    let handles := Answer.handles ((fresh options).run calls).1
    let last := ((fresh options).run calls).2
    handles = List.range' 1 handles.length ∧
      (∀ handle : Int, (∀ returned ∈ handles, (returned : Int) ≠ handle) →
        last.render handle = .error (.unknownHandle handle)) ∧
      ∀ before source x y size pageHeight after, calls = before ++ .convert source x y size pageHeight :: after →
        let earlier := ((fresh options).run before).2
        let conversion := earlier.convert source x y size pageHeight
        let alone := (fresh options).convert source x y size pageHeight
        (∀ failure, conversion.1 = .error failure →
          alone.1 = .error failure ∧ ∀ handle, conversion.2.render handle = earlier.render handle) ∧
        ∀ handle, conversion.1 = .ok handle →
          alone.1 = .ok 1 ∧ ∃ operators, alone.2.render 1 = .ok operators ∧
            last.render handle = .ok (operators.map (Operator.renumber earlier.ledger.count)) := by
  intro handles last
  obtain ⟨converted, hall, hsize⟩ := (fresh options).handles_run calls
  have hhandles : handles = List.range' 1 converted := hall
  have hconverted : last.documents.size = converted := hsize.trans (Nat.zero_add converted)
  refine ⟨?_, fun handle hunknown => ?_, ?_⟩
  · rw [hhandles, List.length_range']
  · refine render_eq_error fun returned hreturned => hunknown returned ?_
    rwa [hhandles, ← hconverted]
  · rintro before source x y size pageHeight after rfl earlier conversion alone
    obtain ⟨hlast, outcome, added, halone, hconverted⟩ :=
      (fresh options).run_convert before source x y size pageHeight after
    constructor
    · intro failure herror
      obtain ⟨rfl, hdocuments⟩ := hconverted.of_error herror
      refine ⟨halone.result, fun handle => ?_⟩
      rw [render, render, hdocuments]
    · intro handle hok
      obtain ⟨rfl, tree, rfl⟩ := hconverted.of_ok hok
      refine ⟨halone.result, tree.operators, ?_, hconverted.render_eq rfl hlast⟩
      have hrendered := halone.render_eq rfl (.refl _)
      rwa [fresh_count, map_renumber_zero] at hrendered

/-- After a conversion that fails, the next document is the second one, and is drawn as by another converter. -/
theorem independent_of_attempts :
    (((fresh Exact.options).run Exact.attempts).2.convert Exact.pale 0 0 ⟨0, 0⟩ 100).1 = .ok 2 ∧
      ∃ operators, ((fresh Exact.options).convert Exact.pale 0 0 ⟨0, 0⟩ 100).2.render 1 = .ok operators ∧
        ((fresh Exact.options).run (Exact.attempts ++ [.convert Exact.pale 0 0 ⟨0, 0⟩ 100])).2.render 2 =
          .ok (operators.map (Operator.renumber ((fresh Exact.options).run Exact.attempts).2.ledger.count)) := by
  obtain ⟨-, -, hconversions⟩ :=
    independent_of_run Exact.options (Exact.attempts ++ [.convert Exact.pale 0 0 ⟨0, 0⟩ 100])
  obtain ⟨-, hrenders⟩ := hconversions Exact.attempts Exact.pale 0 0 ⟨0, 0⟩ 100 [] rfl
  exact ⟨Exact.second_after_attempts, (hrenders 2 Exact.second_after_attempts).2⟩

/-- No two resources have the same name, whatever has been converted. Those of each kind are numbered from one on.
    A document that has been converted names all that has been registered for it, each resource once, and nothing
    else. -/
theorem names_of_run (options : Options α) (calls : List (Call α)) :
    let last := ((fresh options).run calls).2
    (last.names.map ResourceName.text).Nodup ∧
      (∀ kind, (last.names.filter fun name => name.kind == kind).map ResourceName.number =
        List.range' 1 (last.ledger.count kind)) ∧
      (∀ resource, Resource.names (Ledger.register resource last.ledger).2.resources.toList =
        last.names ++ [⟨resource.kind, (Ledger.register resource last.ledger).1⟩]) ∧
      ∀ before source x y size pageHeight after, calls = before ++ .convert source x y size pageHeight :: after →
        let earlier := ((fresh options).run before).2
        let conversion := earlier.convert source x y size pageHeight
        ∃ registered, conversion.2.names = earlier.names ++ registered ∧ conversion.2.names <+: last.names ∧
          ∀ handle, conversion.1 = .ok handle →
            ∃ operators, last.render handle = .ok operators ∧
              (operators.filterMap Operator.resource?).Perm registered := by
  intro last
  refine ⟨(Resource.nodup_names _).map ResourceName.text_injective, Resource.map_number_filter_names _,
    fun resource => Resource.names_concat last.ledger.resources resource, ?_⟩
  rintro before source x y size pageHeight after rfl earlier conversion
  obtain ⟨hlast, outcome, added, -, hconverted⟩ :=
    (fresh options).run_convert before source x y size pageHeight after
  refine ⟨_, hconverted.names_eq, hlast.names, fun handle hok => ?_⟩
  obtain ⟨rfl, tree, houtcome⟩ := hconverted.of_ok hok
  refine ⟨_, hconverted.render_eq houtcome hlast, ?_⟩
  rw [filterMap_resource?_renumber]
  exact (hconverted.names tree houtcome).map _

/-- After a conversion that fails, the next document names the third resource, which is registered for it. -/
theorem names_of_attempts :
    (((fresh Exact.options).run Exact.attempts).2.convert Exact.pale 0 0 ⟨0, 0⟩ 100).1 = .ok 2 ∧
      (((fresh Exact.options).run Exact.attempts).2.convert Exact.pale 0 0 ⟨0, 0⟩ 100).2.names =
        ((fresh Exact.options).run Exact.attempts).2.names ++ [⟨.graphicsState, 3⟩] ∧
      ∃ operators, ((fresh Exact.options).run (Exact.attempts ++ [.convert Exact.pale 0 0 ⟨0, 0⟩ 100])).2.render 2 =
          .ok operators ∧ (operators.filterMap Operator.resource?).Perm [⟨.graphicsState, 3⟩] := by
  have hadded : (((fresh Exact.options).run Exact.attempts).2.convert Exact.pale 0 0 ⟨0, 0⟩ 100).2.names =
      ((fresh Exact.options).run Exact.attempts).2.names ++ [⟨.graphicsState, 3⟩] := by
    decide +kernel
  obtain ⟨-, -, -, hconversions⟩ :=
    names_of_run Exact.options (Exact.attempts ++ [.convert Exact.pale 0 0 ⟨0, 0⟩ 100])
  obtain ⟨registered, hnames, -, hrenders⟩ := hconversions Exact.attempts Exact.pale 0 0 ⟨0, 0⟩ 100 [] rfl
  obtain rfl := List.append_cancel_left (hnames.symm.trans hadded)
  exact ⟨Exact.second_after_attempts, hadded, hrenders 2 Exact.second_after_attempts⟩

end Converter

end SvgPage
