import SvgPage.Drawing.Convert
import SvgPage.Proofs.Exact
import SvgPage.Proofs.Markup.Matched
import SvgPage.Proofs.Traversal.Reached

namespace SvgPage

namespace Document

variable {α : Type} {document result : Document α} {name id : String} {tags : List DefinitionEvent}

/-- Definitions that are still to be completed. A recording completes the definition of its id unless a
    later recording has taken the id. -/
structure Awaits (document : Document α) : Prop where
  pending : ∀ recording ∈ document.recordings, recording.superseded = false →
    document.definitions.get? recording.id = some .pending
  superseded : document.recordings.Pairwise fun inner outer =>
    outer.superseded = false → inner.id ≠ outer.id

namespace Awaits

theorem of_archive (h : document.Awaits) (hdefinitions : result.definitions = document.definitions)
    (hrecordings : result.recordings = document.recordings) : result.Awaits := by
  constructor
  · rw [hdefinitions, hrecordings]
    exact h.pending
  · rw [hrecordings]
    exact h.superseded

theorem recordEvent (h : document.Awaits) (event : DefinitionEvent) :
    (document.recordEvent event).Awaits where
  pending := List.forall_mem_map.2 h.pending
  superseded := List.pairwise_map.2 h.superseded

/-- A recording takes its id from all others. -/
theorem own (h : document.Awaits) (events : Array DefinitionEvent) :
    Awaits { document with
      definitions := document.definitions.set id .pending
      recordings := ⟨id, events, false⟩ :: document.recordings.map (·.supersede id) } where
  pending := by
    refine List.forall_mem_cons.2 ⟨fun _ => ?_, List.forall_mem_map.2 fun recording hmem hopen => ?_⟩
    · rw [Table.get?_set, if_pos rfl]
    · obtain ⟨hopen, hid⟩ := Bool.or_eq_false_iff.1 hopen
      have hother : recording.id ≠ id := beq_eq_false_iff_ne.1 hid
      change (document.definitions.set id .pending).get? recording.id = _
      rw [Table.get?_set, if_neg hother]
      exact h.pending recording hmem hopen
  superseded := by
    refine List.pairwise_cons.2 ⟨List.forall_mem_map.2 fun recording _ hopen => ?_, ?_⟩
    · obtain ⟨-, hid⟩ := Bool.or_eq_false_iff.1 hopen
      exact (beq_eq_false_iff_ne.1 hid).symm
    · exact List.pairwise_map.2 (h.superseded.imp fun hpair hopen =>
        hpair (Bool.or_eq_false_iff.1 hopen).1)

/-- The definition of a recording is complete at its end, and all others are what they were. -/
theorem finishRecording (h : document.Awaits) : document.finishRecording.Awaits := by
  rw [Document.finishRecording]
  split
  · exact h
  next recording outer hrecordings =>
    obtain ⟨hpending, hsuperseded⟩ := h
    rw [hrecordings] at hpending hsuperseded
    obtain ⟨-, houter⟩ := List.forall_mem_cons.1 hpending
    obtain ⟨hids, hpairs⟩ := List.pairwise_cons.1 hsuperseded
    refine ⟨fun other hmem hopen => ?_, hpairs⟩
    dsimp only
    split
    · exact houter other hmem hopen
    · rw [Table.get?_set, if_neg (hids other hmem hopen).symm]
      exact houter other hmem hopen

theorem finishRecording_complete (h : document.Awaits)
    (hget : document.definitions.get? id = some (.complete tags)) :
    document.finishRecording.definitions.get? id = some (.complete tags) := by
  rw [Document.finishRecording]
  split
  · exact hget
  next recording outer hrecordings =>
    dsimp only
    split
    · exact hget
    next hopen =>
      have hpending := h.pending recording (hrecordings ▸ List.mem_cons_self) (Bool.eq_false_iff.2 hopen)
      have hother : id ≠ recording.id := by
        rintro rfl
        rw [hpending] at hget
        cases hget
      rw [Table.get?_set, if_neg hother]
      exact hget

end Awaits

theorem Records.awaits {attributes : Attributes} {recorded defines : Bool}
    (h : Records document name attributes result recorded defines) (hawaits : document.Awaits) :
    result.Awaits := by
  cases h with
  | unrecorded => exact hawaits
  | shared leadingText hreplay => exact hawaits.recordEvent _
  | own leadingText hreplay hid => exact (hawaits.recordEvent _).own _

/-- Only an element with the same id that is not in an expansion takes the place of a complete
    definition. -/
theorem Records.complete {attributes : Attributes} {recorded defines : Bool}
    (h : Records document name attributes result recorded defines)
    (hget : document.definitions.get? id = some (.complete tags)) :
    result.definitions.get? id = some (.complete tags) ∨
      (document.replayDepth = 0 ∧ attributes.get? "id" = some id) := by
  cases h with
  | unrecorded => exact .inl hget
  | shared leadingText hreplay => exact .inl hget
  | @own leadingText own hreplay hid =>
    by_cases hsame : id = own
    · exact .inr ⟨hreplay, hsame ▸ hid⟩
    · left
      rw [Table.get?_set, if_neg hsame]
      exact hget

/-- An end tag completes a definition at most, and never one that is complete. -/
theorem Ends.awaits {element : OpenElement α} (h : Ends document element name result)
    (hawaits : document.Awaits) :
    result.Awaits ∧ ∀ id tags, document.definitions.get? id = some (.complete tags) →
      result.definitions.get? id = some (.complete tags) := by
  obtain ⟨closed, hcloses, rfl⟩ := h
  have hrecordings := congrArg Archive.recordings hcloses.archive_eq
  have hdefinitions := congrArg Archive.definitions hcloses.archive_eq
  have hrecorded : (if element.recorded then document.recordEnd name else document).Awaits := by
    split
    · exact hawaits.recordEvent _
    · exact hawaits
  have hsame : (if element.recorded then document.recordEnd name else document).definitions =
      document.definitions := by
    split <;> rfl
  have hclosed : closed.Awaits := hrecorded.of_archive hdefinitions hrecordings
  have hcomplete (id tags) (hget : document.definitions.get? id = some (.complete tags)) :
      closed.definitions.get? id = some (.complete tags) := by
    have hdefined : closed.definitions = document.definitions := hdefinitions.trans hsame
    rwa [hdefined]
  split
  · exact ⟨hclosed.finishRecording, fun id tags hget =>
      hclosed.finishRecording_complete (hcomplete id tags hget)⟩
  · exact ⟨hclosed, hcomplete⟩

theorem Awaits.addText (h : document.Awaits) (text : String) : (document.addText text).Awaits :=
  h.of_archive (addText_definitions document text) (addText_recordings document text)

variable [Scalar α] {setting : Setting α} {event : MarkupEvent} {begun : Option Expansion}

theorem Handles.awaits (h : Handles setting document event result begun) (hawaits : document.Awaits) :
    result.Awaits := by
  cases h with
  | text text => exact hawaits.addText text
  | endTag helements hends => exact (hends.awaits (hawaits.of_archive rfl rfl)).1
  | root frame hroot hname hsize hrest => exact hawaits.of_archive rfl rfl
  | element hroot hrecords hopens hopening =>
    have hrecording := hrecords.awaits hawaits
    exact hrecording.of_archive (congrArg Archive.definitions hopens.archive_eq)
      (congrArg Archive.recordings hopens.archive_eq)
  | use hroot hrecords hopens => exact (hrecords.awaits hawaits).of_archive rfl rfl

theorem Handles.complete (h : Handles setting document event result begun) (hawaits : document.Awaits)
    (hget : document.definitions.get? id = some (.complete tags)) :
    result.definitions.get? id = some (.complete tags) ∨
      (document.replayDepth = 0 ∧
        ∃ name attributes, event = .startTag name attributes ∧ attributes.get? "id" = some id) := by
  cases h with
  | text text => exact .inl ((addText_definitions document text).symm ▸ hget)
  | endTag helements hends => exact .inl ((hends.awaits (hawaits.of_archive rfl rfl)).2 id tags hget)
  | root frame hroot hname hsize hrest => exact .inl hget
  | @element name attributes recording _ _ opened _ hroot hrecords hopens hopening =>
    have hdefinitions : opened.definitions = recording.definitions :=
      congrArg Archive.definitions hopens.archive_eq
    obtain hsame | ⟨hreplay, hid⟩ := hrecords.complete hget
    · exact .inl (hdefinitions.symm ▸ hsame)
    · exact .inr ⟨hreplay, name, attributes, rfl, hid⟩
  | @use name attributes _ _ _ _ _ hroot hrecords hopens =>
    obtain hsame | ⟨hreplay, hid⟩ := hrecords.complete hget
    · exact .inl hsame
    · exact .inr ⟨hreplay, name, attributes, rfl, hid⟩

end Document

namespace Stage

open Document

variable {α : Type} [Scalar α] {setting : Setting α} {embed : Option (Embedding α)}
  {stage next fetched : Stage α} {id : String} {tags : List DefinitionEvent}

omit [Scalar α] in
theorem fetch_awaits {event : MarkupEvent} (h : stage.fetch = some (event, fetched))
    (hawaits : stage.document.Awaits) : fetched.document.Awaits := by
  obtain ⟨hrecordings, hdefinitions⟩ := fetch_archive h
  exact hawaits.of_archive hdefinitions hrecordings

theorem Passes.awaits (h : Passes setting stage next) (hawaits : stage.document.Awaits) :
    next.document.Awaits := by
  cases h with
  | expanded hexpansions hrest hdocument hnext hevents =>
    rw [hdocument]
    exact hawaits.of_archive rfl rfl
  | handled hfetch hhandles hnext hevents => exact hhandles.awaits (fetch_awaits hfetch hawaits)

theorem Reached.awaits {events : List MarkupEvent} (h : Reached setting embed events stage) :
    stage.document.Awaits := by
  obtain ⟨ledger, hruns⟩ := h
  refine hruns.induction (P := fun stage => stage.document.Awaits) ?_ fun _ _ hstage hpasses =>
    hpasses.awaits hstage
  exact ⟨List.forall_mem_nil _, .nil⟩

/-- A complete definition stays, or there is a start tag with its id among the events. -/
def Stays (id : String) (tags : List DefinitionEvent) (consumed : List MarkupEvent)
    (definitions : Table Definition) : Prop :=
  definitions.get? id = some (.complete tags) ∨
    ∃ name attributes, .startTag name attributes ∈ consumed ∧ attributes.get? "id" = some id

theorem Passes.stays {expanding : List String} {depth : Nat} (h : Passes setting stage next)
    (hcounts : Counts expanding depth stage) (hawaits : stage.document.Awaits)
    (hget : stage.document.definitions.get? id = some (.complete tags)) :
    ∃ consumed, stage.rest = consumed ++ next.rest ∧ Stays id tags consumed next.document.definitions := by
  cases h with
  | expanded hexpansions hrest hdocument hnext hevents =>
    refine ⟨[], hevents.symm, .inl ?_⟩
    rw [hdocument]
    exact hget
  | @handled event fetched begun hfetch hhandles hnext hevents =>
    obtain ⟨hstanding, -⟩ := fetch_standing hfetch
    obtain ⟨-, hdefinitions⟩ := fetch_archive hfetch
    have hhandled := hhandles.complete (fetch_awaits hfetch hawaits) (hdefinitions.symm ▸ hget)
    obtain ⟨expansion, tag, rest, outer, hexpansions, -, -, -, -, hrest⟩ | ⟨-, hrest, -, -⟩ :=
      fetch_eq_some hfetch
    · refine ⟨[], (hevents.trans hrest).symm, hhandled.imp_right fun ⟨hreplay, _⟩ => ?_⟩
      have hsame : fetched.document.replayDepth = stage.document.replayDepth :=
        congrArg Standing.replayDepth hstanding
      rw [hsame, hcounts.replayDepth, hexpansions, List.length_cons] at hreplay
      omega
    · refine ⟨[event], hevents ▸ hrest, hhandled.imp_right fun ⟨_, name, attributes, hevent, hid⟩ => ?_⟩
      exact ⟨name, attributes, hevent ▸ List.mem_singleton_self _, hid⟩

/-- A complete definition stays along a run, or one of the start tags that the run takes has its id. -/
theorem stays_of_runs {expanding : List String} {depth : Nat} {later : Stage α}
    (h : Runs setting embed (.ok stage) (.ok later)) (hcounts : Counts expanding depth stage)
    (hawaits : stage.document.Awaits) (hget : stage.document.definitions.get? id = some (.complete tags)) :
    ∃ consumed, stage.rest = consumed ++ later.rest ∧ Stays id tags consumed later.document.definitions := by
  have hall : Counts expanding depth later ∧ later.document.Awaits ∧
      ∃ consumed, stage.rest = consumed ++ later.rest ∧ Stays id tags consumed later.document.definitions := by
    refine h.induction (P := fun current => Counts expanding depth current ∧ current.document.Awaits ∧
      ∃ consumed, stage.rest = consumed ++ current.rest ∧
        Stays id tags consumed current.document.definitions)
      ⟨hcounts, hawaits, [], rfl, .inl hget⟩ ?_
    rintro current next ⟨hcurrent, hopen, consumed, hrest, hstays⟩ hpasses
    refine ⟨hcurrent.passes hpasses, hpasses.awaits hopen, ?_⟩
    obtain hsame | ⟨name, attributes, hmem, hid⟩ := hstays
    · obtain ⟨more, hmore, hnext⟩ := hpasses.stays hcurrent hopen hsame
      refine ⟨consumed ++ more, ?_, hnext.imp_right fun ⟨name, attributes, hmem, hid⟩ => ?_⟩
      · rw [hrest, hmore, List.append_assoc]
      · exact ⟨name, attributes, List.mem_append_right _ hmem, hid⟩
    · obtain ⟨more, hmore⟩ := hpasses.exists_rest
      refine ⟨consumed ++ more, ?_, .inr ⟨name, attributes, List.mem_append_left _ hmem, hid⟩⟩
      rw [hrest, hmore, List.append_assoc]
  exact hall.2.2

omit [Scalar α] in
/-- At a stage of matching events an end tag finds its element open. -/
theorem openElements_ne_nil {last : List String} {ground : List (OpenElement α)} {held : List Held}
    {expanding : List String} {depth : Nat} {name : String}
    (hsound : Sound ground held expanding depth last stage) (h : stage.fetch = some (.endTag name, fetched)) :
    fetched.document.openElements ≠ [] := by
  have hsame : fetched.document.openElements = stage.document.openElements :=
    congrArg Standing.openElements (fetch_standing h).1
  rw [hsame]
  obtain ⟨⟨id, tags, shares, own⟩, tag, rest, outer, hexpansions, htags, hevent, -, -, -⟩ |
    ⟨hexpansions, hrest, -, -⟩ := fetch_eq_some h
  · cases hsound.layout with
    | direct opened hnone helements hnames htracks =>
      rw [hexpansions] at hnone
      cases hnone
    | replayed opened name recorded defines helements hnames htracks =>
      cases tag with
      | startTag name attributes text => cases hevent
      | endTag name text =>
        dsimp only at htags
        subst htags
        rw [hexpansions] at helements
        obtain ⟨element, others, hopen, -, -⟩ := helements.stop
        rw [hopen]
        exact List.cons_ne_nil _ _
  · cases hsound.layout with
    | direct opened _ helements hnames htracks =>
      rw [hrest] at hnames
      cases opened with
      | nil => cases hnames
      | cons innermost opened =>
        rw [helements]
        exact List.cons_ne_nil _ _
    | replayed opened name recorded defines helements hnames htracks =>
      rw [hexpansions] at helements
      cases helements

theorem drawingSize_error {requested intrinsic : Size α} {failure : Failure α}
    (h : drawingSize requested intrinsic = .error failure) :
    ∃ width height, failure = .noArea width height := by
  unfold drawingSize at h
  split at h
  split at h <;> cases h
  exact ⟨_, _, rfl⟩

/-- A root is refused for what it is or for its size. -/
theorem openRoot_error {drawing after : Drawing α} {name : String} {attributes : Attributes}
    {failure : Failure α} (h : Draw.openRoot setting name attributes drawing = (.error failure, after)) :
    failure = .foreignRoot name ∨ ∃ width height, failure = .noArea width height := by
  rw [Draw.openRoot] at h
  split at h
  · cases h
    exact .inl rfl
  · cases hsize : rootSize setting drawing.document.frame attributes with
    | error refusal =>
      simp only [Document.openRoot, hsize] at h
      cases h
      exact .inr (drawingSize_error hsize)
    | ok size =>
      simp only [Document.openRoot, hsize] at h
      cases h

omit [Scalar α] in
theorem afterBegun_ne_failed (stage : Stage α) (begun : Begun α) (failure : Failure α) (ledger : Ledger α) :
    stage.afterBegun begun ≠ .failed failure ledger := by
  obtain ⟨opening, recorded, defines⟩ := begun
  intro h
  cases opening <;> cases h

theorem step_ne_unexpectedEnd {last : List String} {ground : List (OpenElement α)} {held : List Held}
    {expanding : List String} {depth : Nat} (hsound : Sound ground held expanding depth last stage)
    (name : String) (ledger : Ledger α) : stage.step setting ≠ .failed (.unexpectedEnd name) ledger := by
  intro h
  rw [step] at h
  split at h
  next event fetched hfetch =>
    cases event with
    | startTag tagName attributes =>
      rw [handle, startTag] at h
      split at h
      · exact afterBegun_ne_failed _ _ _ _ h
      · rw [advanceBy] at h
        split at h
        · cases h
        next failure after hfailed =>
          cases h
          obtain hroot | ⟨width, height, hroot⟩ := openRoot_error hfailed <;> cases hroot
    | endTag tagName =>
      obtain ⟨element, outer, helements⟩ := List.exists_cons_of_ne_nil (openElements_ne_nil hsound hfetch)
      rw [handle, advanceBy, Draw.endTag_cons setting tagName helements] at h
      cases h
    | text text => cases h
  · split at h <;> cases h

/-- Embedded documents in which no end tag is unexpected. -/
def EmbedsMatched (embed : Option (Embedding α)) : Prop :=
  ∀ draw ∈ embed, ∀ inner markup ledger name,
    (draw inner markup ledger).1 ≠ .error (.unexpectedEnd name)

theorem runs_ne_unexpectedEnd {events : List MarkupEvent}
    (hevents : (Tag.openAfter [] (MarkupEvent.tags events)).isSome = true) (hembed : EmbedsMatched embed)
    {ledger after : Ledger α} {failure : Failure α}
    (h : Runs setting embed (.ok (.initial setting ledger events)) (.error (failure, after)))
    (name : String) : failure ≠ .unexpectedEnd name := by
  obtain hsame | ⟨before, hruns, hleads⟩ := h.cases_tail
  · cases hsame
  · rintro rfl
    obtain ⟨last, hlast⟩ := Option.isSome_iff_exists.1 hevents
    cases hleads with
    | @step stage _ hstep =>
      have hreached : Reached setting embed events stage := ⟨ledger, hruns⟩
      have hmatched (ledger : Ledger α) : stage.step setting ≠ .failed (.unexpectedEnd name) ledger :=
        step_ne_unexpectedEnd (hreached.sound hlast) name ledger
      cases hprogress : stage.step setting with
      | next next =>
        rw [hprogress] at hstep
        cases hstep
      | embedding inner markup outer element =>
        rw [hprogress] at hstep
        cases embed with
        | none => cases hstep
        | some draw =>
          have hdrawn := hembed draw rfl inner markup outer.drawing.ledger name
          simp only [Progress.resolve] at hstep
          split at hstep
          · cases hstep
          next refusal _ hfailed =>
            cases hstep
            rw [hfailed] at hdrawn
            exact hdrawn rfl
      | failed failure ledger =>
        rw [hprogress] at hstep
        cases hstep
        exact hmatched after hprogress
      | ended =>
        rw [hprogress] at hstep
        cases hstep

theorem convertWith_ne_unexpectedEnd (hembed : EmbedsMatched embed) (setting : Setting α) (markup : String)
    (ledger : Ledger α) (name : String) :
    (convertWith embed setting markup ledger).1 ≠ .error (.unexpectedEnd name) := by
  have hruns : Runs setting embed _ (outcome [] [] _) :=
    events_runs (Markup.read markup).events [] (.initial setting ledger) (.initial setting)
  rw [List.append_nil] at hruns
  rw [convertWith]
  generalize Draw.events setting embed (Markup.read markup).events (.initial setting ledger) = drawn
    at hruns ⊢
  obtain ⟨result, drawing⟩ := drawn
  cases result with
  | error failure =>
    intro hfailed
    cases hfailed
    exact runs_ne_unexpectedEnd (Markup.read_matched markup) hembed hruns name rfl
  | ok result =>
    intro hfailed
    cases hline : (Markup.read markup).errorLine with
    | none =>
      rw [hline] at hfailed
      cases hfailed
    | some line =>
      rw [hline] at hfailed
      cases hfailed

theorem convertNested_ne_unexpectedEnd (levels : Nat) : ∀ (setting : Setting α) (markup : String) (ledger : Ledger α)
    (name : String), (convertNested levels setting markup ledger).1 ≠ .error (.unexpectedEnd name) :=
  convertNested_induction (fun _ => convertWith_ne_unexpectedEnd) levels

/-- At every stage of a document whose tags match, each complete definition holds the tags of one element,
    of which none but the last closes the first. It stays complete and the same until another element takes
    its id. And no end tag, of the document or of an expansion, lacks an open element, whatever is
    converted. -/
theorem definitions_of_reached {events : List MarkupEvent}
    (hevents : (Tag.openAfter [] (MarkupEvent.tags events)).isSome = true)
    (hreached : Reached setting embed events stage) :
    (∀ id tags, stage.document.definitions.get? id = some (.complete tags) →
      DefinitionEvent.IsElement tags ∧
      (∀ before after, tags = before ++ after → before ≠ [] → after ≠ [] →
        Tag.stopCount (before.map DefinitionEvent.tag) < Tag.startCount (before.map DefinitionEvent.tag)) ∧
      ∀ later, Runs setting embed (.ok stage) (.ok later) → ∃ consumed, stage.rest = consumed ++ later.rest ∧
        Stays id tags consumed later.document.definitions) ∧
    (∀ name ledger, stage.step setting ≠ .failed (.unexpectedEnd name) ledger) ∧
    ∀ (outermost : Setting α) markup ledger name,
      (convertDocument outermost markup ledger).1 ≠ .error (.unexpectedEnd name) := by
  obtain ⟨last, hlast⟩ := Option.isSome_iff_exists.1 hevents
  have hsound := hreached.sound hlast
  refine ⟨fun id tags hget => ?_, step_ne_unexpectedEnd hsound, fun outermost =>
    convertNested_ne_unexpectedEnd _ outermost⟩
  have helement := hsound.holdsElements id tags hget
  exact ⟨helement, fun before after => helement.stopCount_lt_startCount, fun later hruns =>
    stays_of_runs hruns hsound.counts hreached.awaits hget⟩

/-- After a group with a definition, what is defined there is an element. -/
theorem definitions_of_group :
    let drawing := (Draw.events Exact.setting none (Exact.root :: Exact.group) (.initial Exact.setting {})).2
    Reached Exact.setting none Exact.document ⟨drawing, [], [.endTag "svg"]⟩ ∧
      drawing.document.definitions.get? "r" = some (.complete Exact.defined) ∧
      DefinitionEvent.IsElement Exact.defined := by
  have hok : (Draw.events Exact.setting none (Exact.root :: Exact.group)
      (.initial Exact.setting {})).1.isOk = true := by
    decide +kernel
  have hreached : Reached Exact.setting none Exact.document ⟨_, [], [.endTag "svg"]⟩ :=
    .of_events (Draw.eq_ok hok)
  have hdefined : (Draw.events Exact.setting none (Exact.root :: Exact.group)
      (.initial Exact.setting {})).2.document.definitions.get? "r" = some (.complete Exact.defined) := by
    decide +kernel
  exact ⟨hreached, hdefined, ((definitions_of_reached rfl hreached).1 "r" Exact.defined hdefined).1⟩

end Stage

end SvgPage
