import SvgPage.Proofs.Drawing.Spares
import SvgPage.Proofs.Exact
import SvgPage.Proofs.Traversal.Embeds
import SvgPage.Proofs.Traversal.Reached

namespace SvgPage

open Document

variable {α : Type}

/-- Whether a tag can be a part of a definition. -/
def DefinitionEvent.isRecorded : DefinitionEvent → Bool
  | startTag name _ _ => (ElementKind.ofName name).isRecorded
  | endTag _ _ => true

namespace Document

/-- Definitions, and the recordings that become definitions, consist of tags that can be a part of them. -/
structure KeepsRecorded (document : Document α) : Prop where
  definitions : ∀ id tags, document.definitions.get? id = some (.complete tags) →
    ∀ tag ∈ tags, tag.isRecorded = true
  recordings : ∀ recording ∈ document.recordings, ∀ tag ∈ recording.events.toList, tag.isRecorded = true

namespace KeepsRecorded

variable {document result : Document α}

theorem initial [Scalar α] (setting : Setting α) : (Document.initial setting).KeepsRecorded where
  definitions id tags hget := by cases hget
  recordings := List.forall_mem_nil _

theorem of_eq (h : document.KeepsRecorded) (hdefinitions : result.definitions = document.definitions)
    (hrecordings : result.recordings = document.recordings) : result.KeepsRecorded := by
  constructor
  · rw [hdefinitions]
    exact h.definitions
  · rw [hrecordings]
    exact h.recordings

theorem of_archive_eq (h : document.KeepsRecorded) (harchive : result.archive = document.archive) :
    result.KeepsRecorded :=
  h.of_eq (congrArg Archive.definitions harchive) (congrArg Archive.recordings harchive)

theorem recordEvent (h : document.KeepsRecorded) {event : DefinitionEvent} (hevent : event.isRecorded = true) :
    (document.recordEvent event).KeepsRecorded where
  definitions := h.definitions
  recordings := by
    intro recording hmem
    obtain ⟨earlier, hearlier, rfl⟩ := List.mem_map.1 hmem
    rw [Recording.push, Array.toList_push, List.forall_mem_append, List.forall_mem_singleton]
    exact ⟨h.recordings earlier hearlier, hevent⟩

/-- What is recorded with a start tag can be a part of a definition. -/
theorem recordStart (h : document.KeepsRecorded) (name : String) (attributes : Attributes) :
    (document.recordStart name attributes (.ofName name)).1.KeepsRecorded := by
  simp only [Document.recordStart]
  split
  · exact h
  next hmode =>
    have hkind : (ElementKind.ofName name).isRecorded = true := by
      simp only [Bool.or_eq_true, Bool.not_eq_true', not_or, Bool.not_eq_false] at hmode
      exact hmode.2
    have hpushed (leadingText : String) :
        (document.recordEvent (.startTag name attributes leadingText)).KeepsRecorded :=
      h.recordEvent hkind
    cases (attributes.get? "id").filter (!·.isEmpty) with
    | none => exact hpushed _
    | some id =>
      refine ⟨fun other tags hget => ?_, List.forall_mem_cons.2 ⟨?_, fun recording hmem => ?_⟩⟩
      · dsimp only at hget
        rw [Table.get?_set] at hget
        split at hget
        · cases hget
        · exact h.definitions other tags hget
      · exact List.forall_mem_singleton.2 hkind
      · obtain ⟨pushed, hpushed', rfl⟩ := List.mem_map.1 hmem
        exact (hpushed _).recordings pushed hpushed'

theorem finishRecording (h : document.KeepsRecorded) : document.finishRecording.KeepsRecorded := by
  rw [Document.finishRecording]
  split
  · exact h
  next recording outer hrecordings =>
    have hmem := h.recordings
    rw [hrecordings, List.forall_mem_cons] at hmem
    refine ⟨fun id tags hget => ?_, hmem.2⟩
    dsimp only at hget
    split at hget
    · exact h.definitions id tags hget
    · rw [Table.get?_set] at hget
      split at hget
      · cases hget
        exact hmem.1
      · exact h.definitions id tags hget

theorem ends {element : OpenElement α} {name : String} (h : document.KeepsRecorded)
    (hends : Ends document element name result) : result.KeepsRecorded := by
  obtain ⟨closed, hcloses, rfl⟩ := hends
  have hrecorded : (if element.recorded then document.recordEnd name else document).KeepsRecorded := by
    split
    · exact h.recordEvent rfl
    · exact h
  have hclosed := hrecorded.of_archive_eq hcloses.archive_eq
  split
  · exact hclosed.finishRecording
  · exact hclosed

theorem beginTag [Scalar α] (h : document.KeepsRecorded) (setting : Setting α) (name : String)
    (attributes : Attributes) (ledger : Ledger α) :
    (document.beginTag setting name attributes ledger).1.1.KeepsRecorded :=
  (h.recordStart name attributes).of_archive_eq (openElement_opens ..).archive_eq

end KeepsRecorded

end Document

variable [Scalar α]

theorem Turns.keepsRecorded {setting : Setting α} {drawing next : Drawing α} {event : MarkupEvent}
    (h : Turns setting drawing next event) (hkeeps : drawing.document.KeepsRecorded) :
    next.document.KeepsRecorded := by
  cases h with
  | text hnext =>
    subst hnext
    exact hkeeps.of_eq (addText_definitions ..) (addText_recordings ..)
  | @endTag name element outer helements hnext =>
    subst hnext
    have hpopped : { drawing.document with openElements := outer }.KeepsRecorded := hkeeps.of_eq rfl rfl
    exact hpopped.ends (endElement_ends ..)
  | root hroot hname hopened hnext =>
    subst hnext
    obtain ⟨size, rest, -, -, -, hresult⟩ := openRoot_eq hopened
    rw [hresult]
    exact hkeeps.of_eq rfl rfl
  | @element name attributes hroot hnext =>
    obtain ⟨-, hdocument⟩ := hnext
    rw [hdocument]
    exact (hkeeps.beginTag setting name attributes drawing.ledger).of_eq rfl rfl
  | @use name attributes id tags hroot hnext =>
    obtain ⟨-, -, hdocument⟩ := hnext
    rw [hdocument]
    exact (hkeeps.beginTag setting name attributes drawing.ledger).of_eq rfl rfl

namespace Stage

variable {setting : Setting α} {events : List MarkupEvent} {stage : Stage α}

omit [Scalar α] in
theorem fetch_keepsRecorded {fetched : Stage α} {event : MarkupEvent} (h : stage.fetch = some (event, fetched))
    (hkeeps : stage.document.KeepsRecorded) : fetched.document.KeepsRecorded := by
  obtain ⟨hrecordings, hdefinitions⟩ := fetch_archive h
  exact hkeeps.of_eq hdefinitions hrecordings

theorem Reached.keepsRecorded {embed : Option (Embedding α)} (h : Reached setting embed events stage)
    (hextends : ∀ embed' ∈ embed, embed'.Extends) : stage.document.KeepsRecorded := by
  obtain ⟨ledger, hruns⟩ := h
  refine hruns.induction_step (P := fun stage => stage.document.KeepsRecorded) (.initial setting)
    fun stage next hkeeps hstep => ?_
  obtain ⟨expansion, outer, -, -, hnext⟩ | ⟨event, fetched, hfetch, hturns⟩ := step_turns hextends hstep
  · have hresult : next.document = (stage.document.endExpansion expansion.id).push expansion.element :=
      congrArg Drawing.document hnext
    rw [hresult]
    exact hkeeps.of_eq rfl rfl
  · exact hturns.keepsRecorded (fetch_keepsRecorded hfetch hkeeps)

end Stage

/-- The definitions of a document can be expanded: each one is an element of a kind that is recorded, and so are
    all elements in it. -/
def Expandable (definitions : Table Definition) : Prop :=
  ∀ id tags, definitions.get? id = some (.complete tags) →
    Tag.depthAfter 0 (tags.map DefinitionEvent.tag) = some 0 ∧ ∀ tag ∈ tags, tag.isRecorded = true

/-- A document in which a use is being expanded. -/
structure Document.IsReplaying (document : Document α) : Prop where
  rootSeen : document.rootSeen = true
  replayDepth : 0 < document.replayDepth
  definitions : Expandable document.definitions

omit [Scalar α] in
theorem Document.Spares.isReplaying {before after : Document α} (h : before.Spares after)
    (hreplaying : before.IsReplaying) : after.IsReplaying where
  rootSeen := h.rootSeen.trans hreplaying.rootSeen
  replayDepth := hreplaying.replayDepth.trans_eq h.replayDepth.symm
  definitions := by
    rw [h.definitions]
    exact hreplaying.definitions

namespace Draw

variable {β γ : Type} {drawing : Drawing α}

/-- Whether an action fails or not, it spares what is kept under names. Where it does not fail, its result and
    the drawing are as given. -/
def SparesTo (drawing : Drawing α) (action : Draw α β) (outcome : β → Drawing α → Prop) : Prop :=
  drawing.document.Spares (action drawing).2.document ∧
    ∀ result after, action drawing = (.ok result, after) → outcome result after

namespace SparesTo

variable {action : Draw α β} {outcome : β → Drawing α → Prop}

omit [Scalar α] in
theorem pure {result : β} (h : outcome result drawing) : SparesTo drawing (Pure.pure result) outcome :=
  ⟨.refl _, fun _ _ hresult => by cases hresult; exact h⟩

omit [Scalar α] in
theorem bind {next : β → Draw α γ} {last : γ → Drawing α → Prop} (haction : SparesTo drawing action outcome)
    (hnext : ∀ result after, drawing.document.Spares after.document → outcome result after →
      SparesTo after (next result) last) : SparesTo drawing (action >>= next) last := by
  obtain ⟨hspares, houtcome⟩ := haction
  obtain ⟨result, after, hresult, hbind⟩ | ⟨failure, after, hresult, hbind⟩ := bind_cases action next drawing
  · rw [hresult] at hspares
    obtain ⟨hafter, hlast⟩ := hnext result after hspares (houtcome result after hresult)
    rw [SparesTo, hbind]
    exact ⟨hspares.trans hafter, hlast⟩
  · rw [hresult] at hspares
    rw [SparesTo, hbind]
    exact ⟨hspares, fun _ _ hok => by cases hok⟩

end SparesTo

/-- A handler of the start tags in expanded uses spares what is kept under names, and opens one element. -/
def IsSparing (start : StartHandler α) : Prop :=
  ∀ name attributes drawing, (ElementKind.ofName name).isRecorded = true → drawing.document.IsReplaying →
    SparesTo drawing (start name attributes) fun _ after =>
      ∃ element : OpenElement α, element.IsReplayed ∧
        after.document.openElements = element :: drawing.document.openElements

variable {setting : Setting α}

omit [Scalar α] in
theorem sparesTo_characters (hreplaying : drawing.document.IsReplaying) (text : String) :
    SparesTo drawing (characters text) fun _ after =>
      after.document.openElements = drawing.document.openElements := by
  refine ⟨addText_spares hreplaying.replayDepth text, fun _ _ hafter => ?_⟩
  cases hafter
  exact congrArg Standing.openElements (drawing.document.addText_standing text)

theorem sparesTo_endTag {element : OpenElement α} {outer : List (OpenElement α)}
    (helements : drawing.document.openElements = element :: outer) (helement : element.IsReplayed)
    (name : String) :
    SparesTo drawing (endTag setting name) fun _ after => after.document.openElements = outer := by
  have hends := endElement_ends setting { drawing.document with openElements := outer } element name drawing.ledger
  have hpopped : drawing.document.Spares { drawing.document with openElements := outer } :=
    ⟨rfl, rfl, rfl, rfl, .of_eq rfl⟩
  rw [SparesTo, endTag_cons setting name helements]
  refine ⟨hpopped.trans (hends.spares helement), fun _ _ hafter => ?_⟩
  cases hafter
  exact congrArg Standing.openElements hends.standing_eq

/-- The tags of elements close what they have opened: after them the elements are open that were open before. -/
theorem sparesTo_replay {start : StartHandler α} (hstart : IsSparing start) (tags : List DefinitionEvent)
    {above ground : List (OpenElement α)}
    (hdepth : Tag.depthAfter above.length (tags.map DefinitionEvent.tag) = some 0)
    (htags : ∀ tag ∈ tags, tag.isRecorded = true) (hreplaying : drawing.document.IsReplaying)
    (habove : ∀ element ∈ above, element.IsReplayed)
    (helements : drawing.document.openElements = above ++ ground) :
    SparesTo drawing (replay setting start tags) fun _ after => after.document.openElements = ground := by
  induction tags generalizing drawing above with
  | nil =>
    rw [List.map_nil, Tag.depthAfter, Option.some_inj, List.length_eq_zero_iff] at hdepth
    subst hdepth
    exact .pure helements
  | cons tag rest ih =>
    obtain ⟨htag, hrest⟩ := List.forall_mem_cons.1 htags
    cases tag with
    | startTag name attributes leadingText =>
      refine (sparesTo_characters hreplaying leadingText).bind fun _ texted htexted hsame => ?_
      have hinside := htexted.isReplaying hreplaying
      refine (hstart name attributes texted htag hinside).bind fun _ after hafter hopened => ?_
      obtain ⟨element, helement, hpushed⟩ := hopened
      have hdepth : Tag.depthAfter (element :: above).length (rest.map DefinitionEvent.tag) = some 0 := hdepth
      refine ih hdepth hrest (hafter.isReplaying hinside) (List.forall_mem_cons.2 ⟨helement, habove⟩) ?_
      rw [hpushed, hsame, helements, List.cons_append]
    | endTag name leadingText =>
      cases above with
      | nil => cases hdepth
      | cons element above =>
        obtain ⟨helement, houter⟩ := List.forall_mem_cons.1 habove
        refine (sparesTo_characters hreplaying leadingText).bind fun _ texted htexted hsame => ?_
        have hinside := htexted.isReplaying hreplaying
        refine (sparesTo_endTag (hsame.trans helements) helement name).bind fun _ after hafter hclosed => ?_
        exact ih hdepth hrest (hafter.isReplaying hinside) houter hclosed

omit [Scalar α] in
/-- Marking a use as being expanded leaves no trace. -/
theorem sparesTo_whileExpanding {id : String} {action : Draw α Unit} {ground : List (OpenElement α)}
    (haction : SparesTo { drawing with document := drawing.document.beginExpansion id } action fun _ after =>
      after.document.openElements = ground) :
    SparesTo drawing (whileExpanding id action) fun _ after => after.document.openElements = ground := by
  obtain ⟨hspares, houtcome⟩ := haction
  rw [SparesTo, whileExpanding]
  generalize action { drawing with document := drawing.document.beginExpansion id } = result at hspares houtcome ⊢
  obtain ⟨result, after⟩ := result
  refine ⟨⟨hspares.rootSeen, ?_, hspares.registry, hspares.clip, hspares.clipPaths⟩, fun _ _ hafter => ?_⟩
  · have hreplay : after.document.replayDepth = drawing.document.replayDepth + 1 := hspares.replayDepth
    change after.document.replayDepth - 1 = _
    rw [hreplay, Nat.add_sub_cancel]
  · cases hafter
    exact houtcome () after rfl

/-- Whatever a start tag comes to spares what is kept under names, once the tag itself has been handled. -/
theorem sparesTo_carryOut {embed : Option (Embedding α)} {start : Option (StartHandler α)}
    (hstart : ∀ handler ∈ start, IsSparing handler) (hroot : drawing.document.rootSeen = true)
    (hdefinitions : Expandable drawing.document.definitions) {opening : Opening α}
    (hopening : ∀ id tags, opening = .expansion id tags →
      Tag.depthAfter 0 (tags.map DefinitionEvent.tag) = some 0 ∧ ∀ tag ∈ tags, tag.isRecorded = true) :
    SparesTo drawing (carryOut setting embed start opening) fun closing after =>
      closing = opening.closing ∧ after.document.openElements = drawing.document.openElements := by
  cases opening with
  | element closing => exact .pure ⟨rfl, rfl⟩
  | expansion id tags =>
    cases start with
    | none => exact .pure ⟨rfl, rfl⟩
    | some handler =>
      obtain ⟨hdepth, htags⟩ := hopening id tags rfl
      let begun : Drawing α := { drawing with document := drawing.document.beginExpansion id }
      have hreplaying : begun.document.IsReplaying := ⟨hroot, Nat.succ_pos _, hdefinitions⟩
      have hdepth : Tag.depthAfter ([] : List (OpenElement α)).length (tags.map DefinitionEvent.tag) = some 0 := hdepth
      have hreplay : SparesTo begun (replay setting handler tags) fun _ after =>
          after.document.openElements = drawing.document.openElements :=
        sparesTo_replay (hstart handler rfl) tags hdepth htags hreplaying (List.forall_mem_nil _) rfl
      exact (sparesTo_whileExpanding hreplay).bind fun _ after _ hafter => .pure ⟨rfl, hafter⟩
  | embedding inner markup =>
    cases embed with
    | none => exact .pure ⟨rfl, rfl⟩
    | some embed =>
      have hembed : SparesTo drawing (embedDocument embed inner markup) fun _ after =>
          after.document.openElements = drawing.document.openElements := by
        rw [SparesTo, embedDocument]
        split
        · exact ⟨.refl _, fun _ _ hafter => by cases hafter⟩
        · exact ⟨.refl _, fun _ _ hafter => by cases hafter; rfl⟩
      exact hembed.bind fun _ after _ hafter => .pure ⟨rfl, hafter⟩

/-- The tags that a use stands for can be parts of definitions as well. -/
theorem isRecorded_openElement {document : Document α} {kind : ElementKind} {attributes : Attributes}
    {ledger : Ledger α} {id : String} {tags : List DefinitionEvent}
    (hdefinitions : ∀ id tags, document.definitions.get? id = some (.complete tags) →
      ∀ tag ∈ tags, tag.isRecorded = true)
    (h : (document.openElement setting kind attributes ledger).1.2 = .expansion id tags) :
    ∀ tag ∈ tags, tag.isRecorded = true := by
  obtain ⟨name, own, leadingText, rest, hget, rfl⟩ := openUse_expansion (openElement_expansion h).2
  obtain ⟨hfirst, hrest⟩ := List.forall_mem_cons.1 (hdefinitions id _ hget)
  refine List.forall_mem_cons.2 ⟨?_, hrest⟩
  change (ElementKind.ofName (if localName name == "symbol" then "svg" else name)).isRecorded = true
  split
  · decide
  · exact hfirst

/-- They can be handled again as they are: they are those of one element. -/
theorem expandable_openElement {document : Document α} (hdefinitions : Expandable document.definitions)
    {kind : ElementKind} {attributes : Attributes} {ledger : Ledger α} {id : String} {tags : List DefinitionEvent}
    (h : (document.openElement setting kind attributes ledger).1.2 = .expansion id tags) :
    Tag.depthAfter 0 (tags.map DefinitionEvent.tag) = some 0 ∧ ∀ tag ∈ tags, tag.isRecorded = true := by
  obtain ⟨name, own, leadingText, rest, hget, htags⟩ := openUse_expansion (openElement_expansion h).2
  refine ⟨?_, isRecorded_openElement (fun id tags hget => (hdefinitions id tags hget).2) h⟩
  rw [htags]
  exact (hdefinitions id _ hget).1

theorem isSparing_startTagWith (embed : Option (Embedding α)) {start : Option (StartHandler α)}
    (hstart : ∀ handler ∈ start, IsSparing handler) : IsSparing (startTagWith setting embed start) := by
  intro name attributes drawing hkind hreplaying
  let opened := drawing.document.openElement setting (.ofName name) attributes drawing.ledger
  have hopens := openElement_opens setting drawing.document attributes drawing.ledger (.ofName name)
  have hspares : drawing.document.Spares opened.1.1 := openElement_spares setting drawing.document hkind attributes _
  have hbegun : drawing.document.beginTag setting name attributes drawing.ledger =
      ((opened.1.1, ⟨opened.1.2, false, false⟩), opened.2) := by
    simp only [beginTag, recordStart_of_replaying hreplaying.replayDepth, bind_apply, pure_apply, opened]
  let begun : Drawing α := { drawing with document := opened.1.1, ledger := opened.2 }
  have hinside : begun.document.IsReplaying := hspares.isReplaying hreplaying
  have hcarried : SparesTo begun (carryOut setting embed start opened.1.2) _ :=
    sparesTo_carryOut hstart hinside.rootSeen hinside.definitions
      fun id tags => expandable_openElement hreplaying.definitions
  have hpush : SparesTo begun
      (carryOut setting embed start opened.1.2 >>= fun closing => change (·.push ⟨closing, false, false⟩))
      fun _ after => ∃ element : OpenElement α, element.IsReplayed ∧
        after.document.openElements = element :: drawing.document.openElements := by
    refine hcarried.bind fun closing after _ hafter => ?_
    obtain ⟨rfl, helements⟩ := hafter
    refine ⟨⟨rfl, rfl, rfl, rfl, .of_eq rfl⟩, fun _ _ hpushed => ?_⟩
    cases hpushed
    refine ⟨⟨opened.1.2.closing, false, false⟩, ⟨rfl, rfl, hopens.endsEntry_closing hkind⟩, ?_⟩
    exact congrArg (_ :: ·) (helements.trans (congrArg Standing.openElements hopens.standing_eq))
  have happly := startTagWith_apply setting embed start name attributes hreplaying.rootSeen
  rw [hbegun] at happly
  rw [SparesTo, happly]
  exact ⟨hspares.trans hpush.1, hpush.2⟩

theorem isSparing_startTag (setting : Setting α) (embed : Option (Embedding α)) (levels : Nat) :
    IsSparing (startTag setting embed levels) := by
  induction levels with
  | zero => exact isSparing_startTagWith embed fun _ hnone => by cases hnone
  | succ levels ih =>
    refine isSparing_startTagWith embed fun handler hsome => ?_
    cases hsome
    exact ih

end Draw

namespace Stage

variable {setting : Setting α} {events : List MarkupEvent} {stage fetched : Stage α}

/-- Whatever a use at any stage of a document is expanded to, and even if it fails: definitions, recordings,
    gradients and the ids that have been made up stay as the start tag of the use has left them, and so do clip
    paths, but for shapes that are added to the one that is open. -/
theorem spares_of_reached (levels : Nat) {depth : Nat} {name : String} {attributes : Attributes}
    (hevents : (Tag.openAfter [] (MarkupEvent.tags events)).isSome = true)
    (hreached : Reached setting (Embedding.nested depth) events stage) (hroot : stage.document.rootSeen = true)
    (hfetch : stage.fetch = some (.startTag name attributes, fetched))
    (hname : ElementKind.ofName name = .use) :
    (fetched.document.recordStart name attributes .use).1.Spares
      (Draw.startTag setting (Embedding.nested depth) levels name attributes fetched.drawing).2.document := by
  obtain ⟨last, hlast⟩ := Option.isSome_iff_exists.1 hevents
  obtain ⟨hrecordings, hsame⟩ := fetch_archive hfetch
  have hholds : HoldsElements fetched.document.definitions := by
    rw [hsame]
    exact (hreached.sound hlast).holdsElements
  have hseen : fetched.document.rootSeen = true :=
    (congrArg Standing.rootSeen (fetch_standing hfetch).1).trans hroot
  have hkeeps : fetched.document.KeepsRecorded :=
    fetch_keepsRecorded hfetch (hreached.keepsRecorded (nested_extends depth))
  let recorded := (fetched.document.recordStart name attributes .use).1
  let opened := recorded.openElement setting .use attributes fetched.drawing.ledger
  have hrecords := recordStart_records fetched.document name attributes .use
  have hexpandable : Expandable recorded.definitions := by
    intro id tags hget
    have hstarted := hkeeps.recordStart name attributes
    rw [hname] at hstarted
    exact ⟨(hrecords.holdsElements hholds id tags hget).depthAfter, hstarted.definitions id tags hget⟩
  have hspares : recorded.Spares opened.1.1 := openElement_spares setting recorded rfl attributes _
  let begun : Drawing α := { fetched.drawing with document := opened.1.1, ledger := opened.2 }
  have hopened : begun.document.rootSeen = true :=
    hspares.rootSeen.trans ((congrArg Standing.rootSeen hrecords.standing_eq).trans hseen)
  have hdefinitions : Expandable begun.document.definitions := by
    rw [hspares.definitions]
    exact hexpandable
  obtain ⟨start, hstart, hsparing⟩ : ∃ start, Draw.startTag setting (Embedding.nested depth) levels =
      Draw.startTagWith setting (Embedding.nested depth) start ∧ ∀ handler ∈ start, Draw.IsSparing handler := by
    cases levels with
    | zero => exact ⟨none, rfl, fun _ hnone => by cases hnone⟩
    | succ levels =>
      refine ⟨some _, rfl, fun handler hsome => ?_⟩
      cases hsome
      exact Draw.isSparing_startTag setting _ levels
  have hcarried : Draw.SparesTo begun (Draw.carryOut setting (Embedding.nested depth) start opened.1.2) _ :=
    Draw.sparesTo_carryOut hsparing hopened hdefinitions fun id tags => Draw.expandable_openElement hexpandable
  have hpushed : Draw.SparesTo begun
      (Draw.carryOut setting (Embedding.nested depth) start opened.1.2 >>= fun closing =>
        Draw.change (·.push ⟨closing, (fetched.document.recordStart name attributes .use).2.1,
          (fetched.document.recordStart name attributes .use).2.2⟩)) fun _ _ => True :=
    hcarried.bind fun closing after _ _ => ⟨⟨rfl, rfl, rfl, rfl, .of_eq rfl⟩, fun _ _ _ => trivial⟩
  have happly := Draw.startTagWith_apply setting (Embedding.nested depth) start name attributes hseen
  rw [hstart, happly, beginTag, hname]
  exact hspares.trans hpushed.1

/-- A rectangle that is used in a clip path is added to it, and nothing else changes. -/
theorem spares_used :
    let opened := (Draw.events Exact.setting none Exact.clipping (.initial Exact.setting {})).2
    let used := (Draw.startTag Exact.setting none 2 "use" ⟨[("href", "#r")]⟩ opened).2.document
    opened.document.Spares used ∧ opened.document.clip.isSome = true ∧
      (opened.document.clipPaths.get? "c").map List.length = some 0 ∧
      (used.clipPaths.get? "c").map List.length = some 1 := by
  intro opened used
  have hok : (Draw.events Exact.setting none Exact.clipping (.initial Exact.setting {})).1.isOk = true := by
    decide +kernel
  have hreached : Reached Exact.setting (Embedding.nested 0) (Exact.clipping ++ [Exact.use])
      ⟨opened, [], [Exact.use]⟩ := .of_events (Draw.eq_ok hok)
  have hroot : opened.document.rootSeen = true := by
    decide +kernel
  have hclip : opened.document.clip.isSome = true := by
    decide +kernel
  have hspares := spares_of_reached 2 rfl hreached hroot rfl rfl
  have hrecord : opened.document.recordStart "use" ⟨[("href", "#r")]⟩ .use = (opened.document, false, false) := by
    rw [recordStart, hclip, Bool.or_true, Bool.true_or]
    rfl
  have hsame : (Stage.document ⟨opened, [], []⟩).recordStart "use" ⟨[("href", "#r")]⟩ .use = _ := hrecord
  refine ⟨?_, hclip, by decide +kernel, by decide +kernel⟩
  rw [hsame] at hspares
  exact hspares

end Stage

end SvgPage
