import SvgPage.Proofs.Drawing.Naming
import SvgPage.Proofs.Traversal.Spares

namespace SvgPage

open Document

variable {α : Type}

/-- Whether an event is the start tag of a gradient or a clip path that has the id. -/
def MarkupEvent.Names (id : String) : MarkupEvent → Prop
  | startTag name attributes => (ElementKind.ofName name).isNamed = true ∧ attributes.get? "id" = some id
  | endTag _ | text _ => False

instance (id : String) : DecidablePred (MarkupEvent.Names id)
  | .startTag _ _ => inferInstanceAs (Decidable (_ ∧ _))
  | .endTag _ | .text _ => inferInstanceAs (Decidable False)

/-- Whether an event is the start tag of a gradient or a clip path without an id. -/
def MarkupEvent.IsUnnamed : MarkupEvent → Prop
  | startTag name attributes => (ElementKind.ofName name).isNamed = true ∧ attributes.get? "id" = none
  | endTag _ | text _ => False

theorem ElementKind.isRecorded_of_isNamed {kind : ElementKind} (h : kind.isNamed = true) :
    kind.isRecorded = false := by
  cases kind <;> first | rfl | cases h

/-- Gradients and clip paths are not parts of definitions. -/
theorem DefinitionEvent.not_names {tag : DefinitionEvent} (h : tag.isRecorded = true) (id : String) :
    ¬tag.event.Names id := by
  cases tag with
  | startTag name attributes leadingText =>
    rintro ⟨hnamed, -⟩
    have hkind : (ElementKind.ofName name).isRecorded = true := h
    rw [ElementKind.isRecorded_of_isNamed hnamed] at hkind
    cases hkind
  | endTag name leadingText => exact False.elim

variable [Scalar α] {setting : Setting α} {id : String}

variable (id) in
/-- Handling an event leaves alone what an id stands for, unless the event is the start tag of an element that has
    the id, or the id is made up for it. -/
theorem Turns.retains {drawing next : Drawing α} {event : MarkupEvent} (h : Turns setting drawing next event) :
    drawing.document.naming.Counts next.document.naming ∧
      (drawing.document.naming.CountsFromOne → drawing.document.naming.IsSettled id →
        ¬next.document.naming.MadeUp id → ¬event.Names id →
        Naming.Retains id drawing.document.naming next.document.naming) := by
  have hsame {naming : Naming α} (hnaming : naming = drawing.document.naming) :
      drawing.document.naming.Counts naming ∧
        (drawing.document.naming.CountsFromOne → drawing.document.naming.IsSettled id → ¬naming.MadeUp id →
          ¬event.Names id → Naming.Retains id drawing.document.naming naming) := by
    rw [hnaming]
    exact ⟨.same rfl, fun _ hsettled _ _ => ⟨rfl, hsettled⟩⟩
  cases h with
  | text hnext =>
    subst hnext
    exact hsame (addText_naming ..)
  | @endTag name element outer helements hnext =>
    subst hnext
    have hends := endElement_ends setting { drawing.document with openElements := outer } element name drawing.ledger
    obtain ⟨hgenerated, hretains⟩ := hends.naming id
    exact ⟨.same hgenerated, fun _ hsettled _ _ => hretains hsettled⟩
  | root hroot hname hopened hnext =>
    subst hnext
    obtain ⟨size, rest, -, -, -, hresult⟩ := openRoot_eq hopened
    refine hsame ?_
    rw [hresult]
    rfl
  | @element name attributes hroot hnext =>
    obtain ⟨-, hdocument⟩ := hnext
    obtain ⟨hcounts, hretains⟩ := beginTag_retains id setting drawing.document name attributes drawing.ledger
    rw [hdocument]
    exact ⟨hcounts, fun hone hsettled hmade hother =>
      hretains hone hsettled hmade fun hnamed hid => hother ⟨hnamed, hid⟩⟩
  | @use name attributes entry tags hroot hnext =>
    obtain ⟨-, -, hdocument⟩ := hnext
    obtain ⟨hcounts, hretains⟩ := beginTag_retains id setting drawing.document name attributes drawing.ledger
    rw [hdocument]
    exact ⟨hcounts, fun hone hsettled hmade hother =>
      hretains hone hsettled hmade fun hnamed hid => hother ⟨hnamed, hid⟩⟩

/-- An element without an id leaves all ids alone but one that is made up, even those that are open. -/
theorem Turns.resolve_of_isUnnamed {drawing next : Drawing α} {event : MarkupEvent}
    (h : Turns setting drawing next event) (hunnamed : event.IsUnnamed)
    (hcounts : drawing.document.naming.CountsFromOne) :
    ∃ made : Option String, (∀ id ∈ made, next.document.naming.MadeUp id) ∧
      ∀ id ∉ made, next.document.naming.resolve id = drawing.document.naming.resolve id := by
  have henters {name : String} {attributes : Attributes}
      (hunnamed : (MarkupEvent.startTag name attributes).IsUnnamed) :
      drawing.document.naming.Enters none
        (drawing.document.beginTag setting name attributes drawing.ledger).1.1.naming := by
    obtain ⟨hnamed, hnone⟩ := hunnamed
    have hrecords := recordStart_records drawing.document name attributes (.ofName name)
    have hopened := openElement_enters hnamed setting
      (drawing.document.recordStart name attributes (.ofName name)).1 attributes drawing.ledger
    rwa [hrecords.naming_eq, hnone] at hopened
  cases h with
  | text hnext => cases hunnamed
  | endTag helements hnext => cases hunnamed
  | root hroot hname hopened hnext =>
    obtain ⟨hnamed, -⟩ := hunnamed
    rw [hname] at hnamed
    cases hnamed
  | element hroot hnext =>
    obtain ⟨-, hdocument⟩ := hnext
    rw [hdocument]
    exact (henters hunnamed).spares_unnamed hcounts
  | use hroot hnext =>
    obtain ⟨-, -, hdocument⟩ := hnext
    rw [hdocument]
    exact (henters hunnamed).spares_unnamed hcounts

omit [Scalar α] in
theorem Naming.madeUp_iff {naming : Naming α} : naming.MadeUp id ↔
    ∃ stem ∈ naming.generated.names, ∃ next ∈ naming.generated.get? stem,
      ∃ number < next, 1 ≤ number ∧ id = stem ++ toString number := by
  constructor
  · rintro ⟨stem, next, hnext, number, hone, hnumber, hid⟩
    exact ⟨stem, Table.mem_names_iff.2 (Option.isSome_iff_exists.2 ⟨next, hnext⟩), next, hnext, number, hnumber,
      hone, hid⟩
  · rintro ⟨stem, -, next, hnext, number, hnumber, hone, hid⟩
    exact ⟨stem, next, hnext, number, hone, hnumber, hid⟩

instance (naming : Naming α) (id : String) : Decidable (naming.MadeUp id) :=
  decidable_of_iff _ Naming.madeUp_iff.symm

namespace Stage

variable {stage next fetched later : Stage α} {events : List MarkupEvent} {embed : Option (Embedding α)}

/-- The tags to which uses are being expanded can be parts of definitions. -/
def ExpandsRecorded (stage : Stage α) : Prop :=
  ∀ expansion ∈ stage.expansions, ∀ tag ∈ expansion.rest, tag.isRecorded = true

omit [Scalar α] in
theorem fetch_naming {event : MarkupEvent} (h : stage.fetch = some (event, fetched)) :
    fetched.document.naming = stage.document.naming := by
  obtain hsame | ⟨text, hsame⟩ := fetch_document h
  · rw [hsame]
  · rw [hsame, addText_naming]

omit [Scalar α] in
theorem ExpandsRecorded.fetch {event : MarkupEvent} (h : stage.ExpandsRecorded)
    (hfetch : stage.fetch = some (event, fetched)) : fetched.ExpandsRecorded := by
  obtain ⟨expansion, tag, rest, outer, hexpansions, hrest, -, -, hnext, -⟩ | ⟨-, -, -, hnone⟩ := fetch_eq_some hfetch
  · rw [ExpandsRecorded, hexpansions, List.forall_mem_cons, hrest, List.forall_mem_cons] at h
    rw [ExpandsRecorded, hnext, List.forall_mem_cons]
    exact ⟨h.1.2, h.2⟩
  · rw [ExpandsRecorded, hnone]
    exact List.forall_mem_nil _

omit [Scalar α] in
/-- The start tags of gradients and clip paths come from the document itself. -/
theorem ExpandsRecorded.rest_eq {event : MarkupEvent} (h : stage.ExpandsRecorded)
    (hfetch : stage.fetch = some (event, fetched)) (hnames : event.Names id) : stage.rest = event :: fetched.rest := by
  obtain ⟨expansion, tag, rest, outer, hexpansions, hrest, rfl, -, -, -⟩ | ⟨-, hrest, -, -⟩ := fetch_eq_some hfetch
  · rw [ExpandsRecorded, hexpansions, List.forall_mem_cons, hrest, List.forall_mem_cons] at h
    exact absurd hnames (DefinitionEvent.not_names h.1.1 id)
  · exact hrest

/-- A start tag adds no other tags to those that are still to be handled. -/
theorem startTag_expandsRecorded {name : String} {attributes : Attributes} (hkeeps : stage.document.KeepsRecorded)
    (hexpands : stage.ExpandsRecorded)
    (h : (stage.startTag setting name attributes).resolve embed = some (.ok next)) : next.ExpandsRecorded := by
  rw [startTag] at h
  split at h
  · have hrecorded := (hkeeps.recordStart name attributes).definitions
    have hopened (id : String) (tags : List DefinitionEvent) :
        (stage.document.beginTag setting name attributes stage.drawing.ledger).1.2.opening = .expansion id tags →
          ∀ tag ∈ tags, tag.isRecorded = true := Draw.isRecorded_openElement hrecorded
    generalize stage.document.beginTag setting name attributes stage.drawing.ledger = begun at h hopened
    obtain ⟨⟨document, ⟨opening, recorded, defines⟩⟩, ledger⟩ := begun
    cases opening with
    | element closing =>
      cases h
      exact hexpands
    | expansion id tags =>
      cases h
      exact List.forall_mem_cons.2 ⟨hopened id tags rfl, hexpands⟩
    | embedding inner markup =>
      cases embed with
      | none =>
        cases h
        exact hexpands
      | some embed =>
        simp only [afterBegun, Progress.resolve] at h
        split at h <;> cases h
        exact hexpands
  · rw [advanceBy] at h
    split at h <;> cases h
    exact hexpands

theorem step_expandsRecorded (hkeeps : stage.document.KeepsRecorded) (hexpands : stage.ExpandsRecorded)
    (h : (stage.step setting).resolve embed = some (.ok next)) : next.ExpandsRecorded := by
  rw [step] at h
  split at h
  next event fetched hfetch =>
    have hfetched := hexpands.fetch hfetch
    cases event with
    | startTag name attributes => exact startTag_expandsRecorded (fetch_keepsRecorded hfetch hkeeps) hfetched h
    | endTag name =>
      rw [handle, advanceBy] at h
      split at h <;> cases h
      exact hfetched
    | text text =>
      cases h
      exact hfetched
  · split at h
    next expansion outer hexpansions =>
      cases h
      rw [ExpandsRecorded, hexpansions, List.forall_mem_cons] at hexpands
      exact hexpands.2
    · cases h

/-- A step takes no other events than the one that is fetched. -/
theorem step_rest {event : MarkupEvent} (hfetch : stage.fetch = some (event, fetched))
    (h : (stage.step setting).resolve embed = some (.ok next)) : next.rest = fetched.rest := by
  cases step_passes h with
  | expanded hexpansions hnil hdocument hnext hevents =>
    simp only [fetch, hexpansions, hnil] at hfetch
    cases hfetch
  | handled hfetch' hhandles hnext hevents =>
    obtain ⟨-, rfl⟩ := Prod.mk.inj (Option.some.inj (hfetch.symm.trans hfetch'))
    exact hevents

variable (id) in
/-- So does a step, which may take an event. -/
theorem step_retains (hembed : ∀ embed' ∈ embed, embed'.Extends) (hexpands : stage.ExpandsRecorded)
    (h : (stage.step setting).resolve embed = some (.ok next)) :
    stage.document.naming.Counts next.document.naming ∧ ∀ consumed, stage.rest = consumed ++ next.rest →
      stage.document.naming.CountsFromOne → stage.document.naming.IsSettled id →
      (∀ event ∈ consumed, ¬event.Names id) → ¬next.document.naming.MadeUp id →
      Naming.Retains id stage.document.naming next.document.naming := by
  obtain ⟨expansion, outer, -, -, hnext⟩ | ⟨event, fetched, hfetch, hturns⟩ := step_turns hembed h
  · have hsame : next.document.naming = stage.document.naming :=
      congrArg (fun drawing => drawing.document.naming) hnext
    rw [hsame]
    exact ⟨.same rfl, fun _ _ _ hsettled _ _ => ⟨rfl, hsettled⟩⟩
  · have hrest : next.rest = fetched.rest := step_rest hfetch h
    obtain ⟨hcounts, hretains⟩ := hturns.retains id
    change fetched.document.naming.Counts _ at hcounts
    change fetched.document.naming.CountsFromOne → fetched.document.naming.IsSettled id → _ → _ →
      Naming.Retains id fetched.document.naming _ at hretains
    rw [fetch_naming hfetch] at hcounts hretains
    refine ⟨hcounts, fun consumed hconsumed hone hsettled hothers hmade =>
      hretains hone hsettled hmade fun hnames => ?_⟩
    have htaken : [event] ++ fetched.rest = consumed ++ fetched.rest := by
      rw [← hrest, ← hconsumed, hrest]
      exact (hexpands.rest_eq hfetch hnames).symm
    rw [← List.append_cancel_right htaken] at hothers
    exact hothers event List.mem_cons_self hnames

theorem Reached.expandsRecorded (h : Reached setting embed events stage) (hembed : ∀ embed' ∈ embed, embed'.Extends) :
    stage.ExpandsRecorded := by
  obtain ⟨ledger, hruns⟩ := h
  have hall := hruns.induction_step
    (P := fun stage => Reached setting embed events stage ∧ stage.ExpandsRecorded)
    ⟨⟨ledger, .refl⟩, List.forall_mem_nil _⟩ fun stage next ⟨hreached, hexpands⟩ hstep =>
      ⟨hreached.trans (.single (.step hstep)), step_expandsRecorded (hreached.keepsRecorded hembed) hexpands hstep⟩
  exact hall.2

theorem Reached.countsFromOne (h : Reached setting embed events stage) (hembed : ∀ embed' ∈ embed, embed'.Extends) :
    stage.document.naming.CountsFromOne := by
  obtain ⟨ledger, hruns⟩ := h
  have hall := hruns.induction_step
    (P := fun stage => Reached setting embed events stage ∧ stage.document.naming.CountsFromOne)
    ⟨⟨ledger, .refl⟩, fun stem next hnext => by cases hnext⟩ fun stage next ⟨hreached, hcounts⟩ hstep =>
      ⟨hreached.trans (.single (.step hstep)),
        (step_retains "" hembed (hreached.expandsRecorded hembed) hstep).1.countsFromOne hcounts⟩
  exact hall.2

/-- From any stage on an id goes on to stand for the same until an element with the id begins, unless it is made
    up. -/
theorem Reached.retains (h : Reached setting embed events stage) (hembed : ∀ embed' ∈ embed, embed'.Extends)
    (hruns : Runs setting embed (.ok stage) (.ok later)) :
    ∃ consumed, stage.rest = consumed ++ later.rest ∧ ∀ id, stage.document.naming.IsSettled id →
      (∀ event ∈ consumed, ¬event.Names id) → ¬later.document.naming.MadeUp id →
      Naming.Retains id stage.document.naming later.document.naming := by
  have hall := hruns.induction_step
    (P := fun later => Reached setting embed events later ∧ ∃ consumed, stage.rest = consumed ++ later.rest ∧
      ∀ id, stage.document.naming.IsSettled id → (∀ event ∈ consumed, ¬event.Names id) →
        ¬later.document.naming.MadeUp id → Naming.Retains id stage.document.naming later.document.naming)
    ⟨h, [], rfl, fun _ hsettled _ _ => ⟨rfl, hsettled⟩⟩ ?_
  · exact hall.2
  · rintro later next ⟨hreached, consumed, hconsumed, hretained⟩ hstep
    obtain ⟨more, hmore⟩ := (step_passes hstep).exists_rest
    refine ⟨hreached.trans (.single (.step hstep)), consumed ++ more, ?_, fun id hsettled hothers hmade => ?_⟩
    · rw [hconsumed, hmore, List.append_assoc]
    · obtain ⟨hcounts, hretains⟩ := step_retains id hembed (hreached.expandsRecorded hembed) hstep
      obtain ⟨hbefore, hafter⟩ := List.forall_mem_append.1 hothers
      have hkept := hretained id hsettled hbefore fun hearlier => hmade (hcounts.madeUp hearlier)
      exact hkept.trans (hretains more hmore (hreached.countsFromOne hembed) hkept.settled hafter hmade)

/-- At any stage of any document a gradient or a clip path without an id changes only what a single id stands for,
    which is made up for it. And from any stage on what an id stands for is changed only by elements that have the
    id, where it is not open already and is not made up either. -/
theorem named_of_reached {depth : Nat} (hreached : Reached setting (Embedding.nested depth) events stage) :
    (∀ event fetched next, stage.fetch = some (event, fetched) → event.IsUnnamed →
        (stage.step setting).resolve (Embedding.nested depth) = some (.ok next) →
        ∃ made : Option String, (∀ id ∈ made, next.document.naming.MadeUp id) ∧
          ∀ id ∉ made, next.document.naming.resolve id = stage.document.naming.resolve id) ∧
      ∀ later, Runs setting (Embedding.nested depth) (.ok stage) (.ok later) →
        ∃ consumed, stage.rest = consumed ++ later.rest ∧ ∀ id, stage.document.naming.IsSettled id →
          (∀ event ∈ consumed, ¬event.Names id) → ¬later.document.naming.MadeUp id →
          later.document.naming.resolve id = stage.document.naming.resolve id := by
  have hembed := nested_extends (α := α) depth
  refine ⟨fun event fetched next hfetch hunnamed hstep => ?_, fun later hruns => ?_⟩
  · obtain ⟨expansion, outer, -, hnone, -⟩ | ⟨event', fetched', hfetch', hturns⟩ := step_turns hembed hstep
    · rw [hfetch] at hnone
      cases hnone
    · obtain ⟨rfl, rfl⟩ := Prod.mk.inj (Option.some.inj (hfetch.symm.trans hfetch'))
      have hcounts := hreached.countsFromOne hembed
      rw [← fetch_naming hfetch] at hcounts ⊢
      exact hturns.resolve_of_isUnnamed hunnamed hcounts
  · obtain ⟨consumed, hconsumed, hretains⟩ := hreached.retains hembed hruns
    exact ⟨consumed, hconsumed, fun id hsettled hothers hmade => (hretains id hsettled hothers hmade).resolve⟩

variable (setting stage embed) in
theorem exists_next {P : Stage α → Bool}
    (h : ((stage.step setting).resolve embed).any (fun outcome => outcome.toOption.any P) = true) :
    ∃ next, (stage.step setting).resolve embed = some (.ok next) ∧ P next = true := by
  obtain ⟨outcome, houtcome, hholds⟩ := (Option.any_eq_true _ _).1 h
  cases outcome with
  | ok next => exact ⟨next, houtcome, hholds⟩
  | error failure => cases hholds

/-- A clip path without an id leaves another one alone, also when it is closed. -/
theorem named_unnamed :
    let drawing := (Draw.events Exact.setting none (Exact.clipPath "c") (.initial Exact.setting {})).2
    let stage : Stage Rat := ⟨drawing, [], Exact.unnamed⟩
    ∃ next later, (stage.step Exact.setting).resolve none = some (.ok next) ∧
      Runs Exact.setting none (.ok stage) (.ok later) ∧ later.rest = [] ∧
      next.document.naming.MadeUp "clipPath1" ∧ (stage.document.naming.resolve "c").2.map List.length = some 1 ∧
      next.document.naming.resolve "c" = stage.document.naming.resolve "c" ∧
      later.document.naming.resolve "c" = stage.document.naming.resolve "c" := by
  intro drawing stage
  have hok : (Draw.events Exact.setting none (Exact.clipPath "c") (.initial Exact.setting {})).1.isOk = true := by
    decide +kernel
  have hreached : Reached Exact.setting (Embedding.nested 0) (Exact.clipPath "c" ++ Exact.unnamed) stage :=
    .of_events (Draw.eq_ok hok)
  obtain ⟨next, hnext, hmade⟩ := exists_next Exact.setting stage none
    (P := fun next => next.document.naming.MadeUp "clipPath1" ∧ ¬next.document.naming.MadeUp "c") (by decide +kernel)
  obtain ⟨hfirst, hother⟩ := of_decide_eq_true hmade
  let ended := Draw.events Exact.setting none Exact.unnamed drawing
  have hended : ended.1.isOk = true := by
    decide +kernel
  have hruns : Runs Exact.setting none (.ok stage) (.ok ⟨ended.2, [], []⟩) :=
    runs_of_events_ok [] hreached.counts.2 (Draw.eq_ok hended)
  obtain ⟨hstep, hlater⟩ := named_of_reached hreached
  obtain ⟨made, hmadeUp, hspared⟩ := hstep _ _ next rfl ⟨rfl, rfl⟩ hnext
  obtain ⟨consumed, hconsumed, hkept⟩ := hlater _ hruns
  have hothers : ∀ event ∈ Exact.unnamed, ¬event.Names "c" := by decide
  refine ⟨next, _, hnext, hruns, rfl, hfirst, by decide +kernel, hspared "c" fun hmem => hother (hmadeUp "c" hmem),
    hkept "c" ⟨?_, ?_⟩ ?_ ?_⟩
  · decide +kernel
  · decide +kernel
  · rw [← List.append_nil consumed, ← hconsumed]
    exact hothers
  · decide +kernel

/-- But it takes the place of one whose id is like one that is made up. -/
theorem unnamed_replaces_named :
    let drawing := (Draw.events Exact.setting none (Exact.clipPath "clipPath1") (.initial Exact.setting {})).2
    let stage : Stage Rat := ⟨drawing, [], Exact.unnamed⟩
    Reached Exact.setting none (Exact.clipPath "clipPath1" ++ Exact.unnamed) stage ∧
      ∃ next, (stage.step Exact.setting).resolve none = some (.ok next) ∧
        (stage.document.naming.resolve "clipPath1").2.map List.length = some 1 ∧
        (next.document.naming.resolve "clipPath1").2.map List.length = some 0 := by
  intro drawing stage
  have hok : (Draw.events Exact.setting none (Exact.clipPath "clipPath1")
      (.initial Exact.setting {})).1.isOk = true := by
    decide +kernel
  obtain ⟨next, hnext, hreplaced⟩ := exists_next Exact.setting stage none
    (P := fun next => (next.document.naming.resolve "clipPath1").2.map List.length = some 0) (by decide +kernel)
  exact ⟨.of_events (Draw.eq_ok hok), next, hnext, by decide +kernel, of_decide_eq_true hreplaced⟩

end Stage

end SvgPage
