import SvgPage.Proofs.Table
import SvgPage.Proofs.Traversal.Uses

namespace SvgPage

namespace Document

variable {α : Type}

/-- The uses that are being expanded are counted, none of them is expanded inside itself, and the ids that
    are being expanded or recorded are those of definitions. -/
structure Registered (document : Document α) : Prop where
  replayDepth : document.replayDepth = document.expanding.length
  nodup : document.expanding.Nodup
  expanding : ∀ id ∈ document.expanding, id ∈ document.definitions.names
  recordings : ∀ recording ∈ document.recordings, recording.id ∈ document.definitions.names

/-- What a document keeps while tags are handled: the uses that are being expanded, and, as long as there
    are any, the ids that have definitions. -/
structure Keeps (before after : Document α) : Prop where
  registered : after.Registered
  expanding : after.expanding = before.expanding
  names : before.expanding ≠ [] → after.definitions.names = before.definitions.names

theorem Registered.beginExpansion {document : Document α} {id : String} (h : document.Registered)
    (hid : id ∉ document.expanding) (hname : id ∈ document.definitions.names) :
    (document.beginExpansion id).Registered where
  replayDepth := congrArg (· + 1) h.replayDepth
  nodup := List.nodup_cons.2 ⟨hid, h.nodup⟩
  expanding := List.forall_mem_cons.2 ⟨hname, h.expanding⟩
  recordings := h.recordings

/-- Only what has a definition is expanded. -/
theorem Opens.mem_names_of_expansion {setting : Setting α} {document result : Document α}
    {kind : ElementKind} {id : String} {tags : List DefinitionEvent}
    (h : Opens setting document kind result (.expansion id tags)) : id ∈ document.definitions.names := by
  obtain ⟨-, -, -, name, own, text, replayed, attributes, rest, -, hcomplete⟩ := h.expansion_inv
  exact Table.mem_names_iff.2 (Option.isSome_of_eq_some hcomplete)

namespace Keeps

variable {first second third : Document α}

theorem refl (h : first.Registered) : Keeps first first := ⟨h, rfl, fun _ => rfl⟩

theorem trans (hfirst : Keeps first second) (hsecond : Keeps second third) : Keeps first third where
  registered := hsecond.registered
  expanding := hsecond.expanding.trans hfirst.expanding
  names hexpanding := by
    rw [hsecond.names (hfirst.expanding ▸ hexpanding), hfirst.names hexpanding]

/-- Names and ids are all that counts. -/
theorem of_eq (h : first.Registered) (hexpanding : second.expanding = first.expanding)
    (hreplay : second.replayDepth = first.replayDepth)
    (hnames : second.definitions.names = first.definitions.names)
    (hrecordings : ∀ recording ∈ second.recordings, recording.id ∈ first.definitions.names) :
    Keeps first second where
  registered :=
    { replayDepth := by rw [hreplay, hexpanding, h.replayDepth]
      nodup := hexpanding ▸ h.nodup
      expanding := by
        rw [hexpanding, hnames]
        exact h.expanding
      recordings := by
        rw [hnames]
        exact hrecordings }
  expanding := hexpanding
  names _ := hnames

theorem of_archive_eq (h : first.Registered) (hstanding : second.standing = first.standing)
    (harchive : second.archive = first.archive) : Keeps first second := by
  have hrecordings : second.recordings = first.recordings := congrArg Archive.recordings harchive
  refine of_eq h (congrArg Standing.expanding hstanding) (congrArg Standing.replayDepth hstanding)
    (congrArg (Table.names ∘ Archive.definitions) harchive) ?_
  rw [hrecordings]
  exact h.recordings

end Keeps

variable {document result : Document α} {name : String}

/-- Adding a tag to recordings does not change their ids. -/
theorem forall_id_map_push {recordings : List Recording} {names : List String} (event : DefinitionEvent)
    (h : ∀ recording ∈ recordings, recording.id ∈ names) :
    ∀ recording ∈ recordings.map (·.push event), recording.id ∈ names := by
  intro recording hmem
  obtain ⟨earlier, hearlier, rfl⟩ := List.mem_map.1 hmem
  exact h earlier hearlier

theorem Records.keeps {attributes : Attributes} {recorded defines : Bool}
    (h : Records document name attributes result recorded defines) (hregistered : document.Registered) :
    Keeps document result := by
  cases h with
  | unrecorded => exact .refl hregistered
  | shared leadingText hreplay =>
    exact .of_eq hregistered rfl rfl rfl (forall_id_map_push _ hregistered.recordings)
  | @own leadingText id hreplay hid =>
    have hnone : document.expanding = [] := by
      rw [← List.length_eq_zero_iff, ← hregistered.replayDepth, hreplay]
    have hset (other : String) (hother : other ∈ document.definitions.names) :
        other ∈ (document.definitions.set id .pending).names := (Table.mem_names_set _).2 (.inr hother)
    refine ⟨⟨hregistered.replayDepth, hregistered.nodup, ?_, ?_⟩, rfl, fun h => absurd hnone h⟩
    · exact fun other hother => hset other (hregistered.expanding other hother)
    · intro recording hmem
      obtain rfl | hmem := List.mem_cons.1 hmem
      · exact (Table.mem_names_set _).2 (.inl rfl)
      · obtain ⟨pushed, hpushed, rfl⟩ := List.mem_map.1 hmem
        exact hset _ (forall_id_map_push _ hregistered.recordings pushed hpushed)

theorem Registered.push (hregistered : document.Registered) (element : OpenElement α) :
    (document.push element).Registered :=
  ⟨hregistered.replayDepth, hregistered.nodup, hregistered.expanding, hregistered.recordings⟩

/-- The innermost use is no longer expanded. -/
theorem Registered.endExpansion {id : String} {outer : List String} (hregistered : document.Registered)
    (hexpanding : document.expanding = id :: outer) : (document.endExpansion id).Registered := by
  have houter : document.expanding.erase id = outer := by
    rw [hexpanding, List.erase_cons_head]
  obtain ⟨hreplay, hnodup, hnames, hrecordings⟩ := hregistered
  rw [hexpanding] at hreplay hnodup hnames
  refine ⟨?_, ?_, ?_, hrecordings⟩
  · change document.replayDepth - 1 = (document.expanding.erase id).length
    rw [hreplay, houter, List.length_cons, Nat.add_sub_cancel]
  · change (document.expanding.erase id).Nodup
    rw [houter]
    exact (List.nodup_cons.1 hnodup).2
  · change ∀ other ∈ document.expanding.erase id, _
    rw [houter]
    exact (List.forall_mem_cons.1 hnames).2

theorem finishRecording_keeps (hregistered : document.Registered) :
    Keeps document document.finishRecording := by
  rw [finishRecording]
  split
  · exact .refl hregistered
  next recording outer hrecordings =>
    have hmem := hregistered.recordings
    rw [hrecordings, List.forall_mem_cons] at hmem
    have hnames : (if recording.superseded then document.definitions else document.definitions.set
        recording.id (.complete recording.events.toList)).names = document.definitions.names := by
      split
      · rfl
      · exact Table.names_set_of_mem hmem.1 _
    exact .of_eq hregistered rfl rfl hnames hmem.2

theorem Ends.keeps {element : OpenElement α} (h : Ends document element name result)
    (hregistered : document.Registered) : Keeps document result := by
  obtain ⟨closed, hcloses, rfl⟩ := h
  have hend : Keeps document (if element.recorded then document.recordEnd name else document) := by
    split
    · exact .of_eq hregistered rfl rfl rfl (forall_id_map_push _ hregistered.recordings)
    · exact .refl hregistered
  have hclosed := hend.trans (.of_archive_eq hend.registered hcloses.standing_eq hcloses.archive_eq)
  split
  · exact hclosed.trans (finishRecording_keeps hclosed.registered)
  · exact hclosed

theorem addText_keeps (text : String) (hregistered : document.Registered) :
    Keeps document (document.addText text) := by
  have hstanding := document.addText_standing text
  refine .of_eq hregistered (congrArg Standing.expanding hstanding)
    (congrArg Standing.replayDepth hstanding) (congrArg Table.names (document.addText_definitions text)) ?_
  rw [addText_recordings]
  exact hregistered.recordings

end Document

namespace Draw

open Document

variable {α β γ : Type}

/-- An action keeps what a document keeps, whether it fails or not. -/
def KeepsAt (drawing : Drawing α) (action : Draw α β) : Prop :=
  drawing.document.Registered → Keeps drawing.document (action drawing).2.document

theorem KeepsAt.pure (drawing : Drawing α) (result : β) : KeepsAt drawing (Pure.pure result) :=
  Keeps.refl

theorem KeepsAt.bind {drawing : Drawing α} {action : Draw α β} {next : β → Draw α γ}
    (haction : KeepsAt drawing action) (hnext : ∀ result, KeepsAt (action drawing).2 (next result)) :
    KeepsAt drawing (action >>= next) := by
  intro hregistered
  have hafter := haction hregistered
  obtain ⟨result, after, hresult, hbind⟩ | ⟨failure, after, hresult, hbind⟩ :=
    bind_cases action next drawing
  · rw [hresult] at hafter hnext
    rw [hbind]
    exact hafter.trans (hnext result hafter.registered)
  · rw [hresult] at hafter
    rw [hbind]
    exact hafter

theorem keepsAt_push (drawing : Drawing α) (element : OpenElement α) :
    KeepsAt drawing (change (·.push element)) :=
  fun hregistered => .of_eq hregistered rfl rfl rfl hregistered.recordings

theorem keepsAt_characters (drawing : Drawing α) (text : String) : KeepsAt drawing (characters text) :=
  addText_keeps text

/-- A use is no longer marked once its expansion is over, even where that fails. -/
theorem keepsAt_whileExpanding {drawing : Drawing α} {id : String} {action : Draw α Unit}
    (hid : id ∉ drawing.document.expanding) (hnames : id ∈ drawing.document.definitions.names)
    (haction : ∀ drawing, KeepsAt drawing action) : KeepsAt drawing (whileExpanding id action) := by
  intro hregistered
  have hinside := haction { drawing with document := drawing.document.beginExpansion id }
    (hregistered.beginExpansion hid hnames)
  change Keeps drawing.document (Document.endExpansion (action _).2.document id)
  generalize (action { drawing with document := drawing.document.beginExpansion id }).2 = after at hinside ⊢
  have hexpanding : after.document.expanding = id :: drawing.document.expanding := hinside.expanding
  refine ⟨hinside.registered.endExpansion hexpanding, ?_, fun _ => hinside.names (List.cons_ne_nil _ _)⟩
  change after.document.expanding.erase id = drawing.document.expanding
  rw [hexpanding, List.erase_cons_head]

variable [Scalar α] {setting : Setting α}

theorem keepsAt_endTag (drawing : Drawing α) (name : String) : KeepsAt drawing (endTag setting name) := by
  intro hregistered
  cases helements : drawing.document.openElements with
  | nil =>
    rw [endTag_nil setting name helements]
    exact .refl hregistered
  | cons element outer =>
    rw [endTag_cons setting name helements]
    have hpopped : Keeps drawing.document { drawing.document with openElements := outer } :=
      .of_eq hregistered rfl rfl rfl hregistered.recordings
    exact hpopped.trans ((endElement_ends ..).keeps hpopped.registered)

theorem keepsAt_replay {start : StartHandler α}
    (hstart : ∀ name attributes drawing, KeepsAt drawing (start name attributes))
    (tags : List DefinitionEvent) (drawing : Drawing α) : KeepsAt drawing (replay setting start tags) := by
  induction tags generalizing drawing with
  | nil => exact .pure drawing ()
  | cons tag rest ih =>
    cases tag with
    | startTag name attributes leadingText =>
      exact (keepsAt_characters drawing leadingText).bind fun _ =>
        (hstart name attributes _).bind fun _ => ih _
    | endTag name leadingText =>
      exact (keepsAt_characters drawing leadingText).bind fun _ =>
        (keepsAt_endTag _ name).bind fun _ => ih _

theorem keepsAt_openRoot (drawing : Drawing α) (name : String) (attributes : Attributes) :
    KeepsAt drawing (openRoot setting name attributes) := by
  intro hregistered
  rw [openRoot]
  split
  · exact .refl hregistered
  · dsimp only
    split
    · exact .of_eq hregistered rfl rfl rfl hregistered.recordings
    next opened closing ledger hopened =>
      obtain ⟨size, rest, -, -, -, hresult⟩ := openRoot_eq hopened
      rw [hresult]
      exact .of_eq hregistered rfl rfl rfl hregistered.recordings

omit [Scalar α] in
theorem keepsAt_embedDocument (embed : Embedding α) (drawing : Drawing α) (inner : Setting α)
    (markup : String) : KeepsAt drawing (embedDocument embed inner markup) := by
  intro hregistered
  rw [embedDocument]
  split <;> exact .refl hregistered

theorem keepsAt_startTagWith {embed : Option (Embedding α)} {start : Option (StartHandler α)}
    (hstart : ∀ handler ∈ start, ∀ name attributes drawing, KeepsAt drawing (handler name attributes))
    (name : String) (attributes : Attributes) (drawing : Drawing α) :
    KeepsAt drawing (startTagWith setting embed start name attributes) := by
  rw [startTagWith, KeepsAt, document_bind]
  split
  · exact keepsAt_openRoot drawing name attributes
  · intro hregistered
    have hbegun := beginTag_eq setting drawing.document name attributes drawing.ledger
    rw [bind_ok (update_apply _ drawing)]
    generalize drawing.document.beginTag setting name attributes drawing.ledger = result at hbegun ⊢
    obtain ⟨⟨document, ⟨opening, recorded, defines⟩⟩, ledger⟩ := result
    obtain ⟨recording, hrecords, hopens⟩ := hbegun
    have hrecording := hrecords.keeps hregistered
    have hdocument : Keeps drawing.document document := hrecording.trans
      (.of_archive_eq hrecording.registered hopens.standing_eq hopens.archive_eq)
    apply hdocument.trans
    let begun : Drawing α := { drawing with document, ledger }
    have hcarried : KeepsAt begun (carryOut setting embed start opening) := by
      cases opening with
      | element closing => exact .pure begun closing
      | expansion id tags =>
        cases start with
        | none => exact .pure begun Closing.nothing
        | some handler =>
          have hname := hopens.mem_names_of_expansion
          obtain ⟨rfl, hexpanding, -⟩ := hopens.expansion_inv
          exact (keepsAt_whileExpanding hexpanding hname
            (keepsAt_replay (hstart handler rfl) tags)).bind fun _ => .pure _ _
      | embedding inner markup =>
        cases embed with
        | none => exact .pure begun Closing.nothing
        | some embed => exact (keepsAt_embedDocument embed begun inner markup).bind fun _ => .pure _ _
    exact hcarried.bind (fun closing => keepsAt_push _ ⟨closing, recorded, defines⟩) hdocument.registered

theorem keepsAt_startTag (embed : Option (Embedding α)) (levels : Nat) (name : String)
    (attributes : Attributes) (drawing : Drawing α) :
    KeepsAt drawing (startTag setting embed levels name attributes) := by
  induction levels generalizing name attributes drawing with
  | zero => exact keepsAt_startTagWith (fun _ hnone => by cases hnone) name attributes drawing
  | succ levels ih =>
    refine keepsAt_startTagWith (fun handler hsome => ?_) name attributes drawing
    cases hsome
    exact ih

theorem keepsAt_event (embed : Option (Embedding α)) (event : MarkupEvent) (drawing : Drawing α) :
    KeepsAt drawing (Draw.event setting embed event) := by
  cases event with
  | startTag name attributes => exact keepsAt_startTag embed _ name attributes drawing
  | endTag name => exact keepsAt_endTag drawing name
  | text text => exact keepsAt_characters drawing text

theorem keepsAt_events (embed : Option (Embedding α)) (events : List MarkupEvent) (drawing : Drawing α) :
    KeepsAt drawing (Draw.events setting embed events) := by
  induction events generalizing drawing with
  | nil => exact .pure drawing ()
  | cons event rest ih => exact (keepsAt_event embed event drawing).bind fun _ => ih _

end Draw

section Stages

open Document

variable {α : Type} [Scalar α] {setting : Setting α}

/-- Nothing is expanded or recorded in a document before its first tag. -/
theorem Document.Registered.initial (setting : Setting α) : (Document.initial setting).Registered where
  replayDepth := rfl
  nodup := List.nodup_nil
  expanding := List.forall_mem_nil _
  recordings := List.forall_mem_nil _

theorem Document.Handles.registered {document result : Document α} {event : MarkupEvent}
    {begun : Option Expansion} (h : Handles setting document event result begun)
    (hregistered : document.Registered) : result.Registered := by
  cases h with
  | text text => exact (addText_keeps text hregistered).registered
  | endTag helements hends =>
    refine (hends.keeps ?_).registered
    exact ⟨hregistered.replayDepth, hregistered.nodup, hregistered.expanding, hregistered.recordings⟩
  | root frame hroot hname hsize hrest =>
    exact ⟨hregistered.replayDepth, hregistered.nodup, hregistered.expanding, hregistered.recordings⟩
  | element hroot hrecords hopens hopening =>
    have hrecording := (hrecords.keeps hregistered).registered
    exact (Keeps.of_archive_eq hrecording hopens.standing_eq hopens.archive_eq).registered.push _
  | use hroot hrecords hopens =>
    have hrecording := (hrecords.keeps hregistered).registered
    exact hrecording.beginExpansion hopens.expansion_inv.2.1 hopens.mem_names_of_expansion

theorem Stage.Passes.registered {stage next : Stage α} {expanding : List String} {depth : Nat}
    (h : Passes setting stage next) (hcounts : Counts expanding depth stage)
    (hregistered : stage.document.Registered) : next.document.Registered := by
  cases h with
  | expanded hexpansions hrest hdocument hnext hevents =>
    have hfirst := hcounts.expanding
    rw [hexpansions, List.map_cons, List.cons_append] at hfirst
    rw [hdocument]
    exact (hregistered.endExpansion hfirst).push _
  | handled hfetch hhandles hnext hevents =>
    apply hhandles.registered
    obtain hsame | ⟨text, htext⟩ := fetch_document hfetch
    · exact hsame ▸ hregistered
    · exact htext ▸ (addText_keeps text hregistered).registered

end Stages

end SvgPage
