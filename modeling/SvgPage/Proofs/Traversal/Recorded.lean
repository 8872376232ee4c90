import SvgPage.Proofs.Element.Alike
import SvgPage.Proofs.Table
import SvgPage.Proofs.Traversal.Handles
import SvgPage.Proofs.Traversal.Transcript

namespace SvgPage

open Document

variable {α : Type}

namespace ElementKind

theorem isRecorded_of_isSelfContained {kind : ElementKind} (h : kind.isSelfContained = true) :
    kind.isRecorded = true := by
  cases kind <;> first | rfl | cases h

theorem ne_use_of_isSelfContained {kind : ElementKind} (h : kind.isSelfContained = true) : kind ≠ .use := by
  rintro rfl
  cases h

theorem ne_clipPath_of_isSelfContained {kind : ElementKind} (h : kind.isSelfContained = true) :
    kind ≠ .clipPath := by
  rintro rfl
  cases h

end ElementKind

theorem Closing.undo_clip_eq_none {closing : Closing α} {scope : Scope α} (h : scope.clip = none) :
    (closing.undo scope).clip = none := by
  cases closing with
  | clipElement matrix =>
    change scope.clip.map _ = none
    rw [h, Option.map_none]
  | _ => first | exact h | rfl

/-- Only clip paths begin to collect shapes. -/
theorem Document.Opens.clip_eq_none {setting : Setting α} {document result : Document α} {kind : ElementKind}
    {opening : Opening α} (h : Opens setting document kind result opening) (hkind : kind ≠ .clipPath)
    (hclip : document.clip = none) : result.clip = none := by
  cases h with
  | clipPath generated clipPaths clip hnone => exact absurd rfl hkind
  | clipElement clipPaths matrix hsome =>
    rw [hclip] at hsome
    cases hsome
  | _ => exact hclip

/-- A recording of tags whose id no other element has taken. -/
def Recording.holding (id : String) (events : List DefinitionEvent) : Recording := ⟨id, events.toArray, false⟩

theorem Recording.push_holding (id : String) (events : List DefinitionEvent) (event : DefinitionEvent) :
    (holding id events).push event = holding id (events ++ [event]) :=
  congrArg (Recording.mk id · false) (List.push_toArray events event)

theorem Recording.supersede_holding {id other : String} (h : other ≠ id) (events : List DefinitionEvent) :
    (holding id events).supersede other = holding id events := by
  rw [supersede]
  simp only [holding, Bool.false_or, beq_eq_false_iff_ne.2 h.symm]

namespace Document

/-- A document in which an element is recorded under an id that no other element has taken since. Of the
    elements that are open, some are inside that element, and their tags are recorded as well. -/
structure Keeping (ground : List (OpenElement α)) (id : String) (above : List (OpenElement α))
    (events : List DefinitionEvent) (document : Document α) : Prop where
  rootSeen : document.rootSeen = true
  replayDepth : document.replayDepth = 0
  clip : document.clip = none
  openElements : document.openElements = above ++ ground
  recorded : ∀ element ∈ above, element.recorded = true
  recordings : document.recordings[above.countP OpenElement.defines]? = some (.holding id events)

variable {ground above : List (OpenElement α)} {id name : String} {events : List DefinitionEvent}
  {document : Document α}

/-- The start tag of an element with an id begins a recording. -/
theorem recordStart_own {attributes : Attributes} {kind : ElementKind} (hreplay : document.replayDepth = 0)
    (hclip : document.clip = none) (hkind : kind.isRecorded = true) (hid : attributes.get? "id" = some id)
    (hnonempty : id ≠ "") :
    ∃ leadingText, document.recordStart name attributes kind =
      ({ document.recordEvent (.startTag name attributes leadingText) with
          definitions := document.definitions.set id .pending
          recordings := ⟨id, #[.startTag name attributes leadingText], false⟩ ::
            (document.recordings.map (·.push (.startTag name attributes leadingText))).map (·.supersede id) },
        true, true) := by
  have hmode : (decide (0 < document.replayDepth) || document.clip.isSome || !kind.isRecorded) = false := by
    rw [hreplay, hclip, hkind]
    rfl
  have hown : (attributes.get? "id").filter (!·.isEmpty) = some id := by
    rw [hid, Option.filter_eq_some_iff]
    exact ⟨rfl, by simpa using hnonempty⟩
  simp only [recordStart, hmode, hown, Bool.false_eq_true, if_false]
  exact ⟨_, rfl⟩

namespace Keeping

theorem isEmpty_recordings (h : Keeping ground id above events document) :
    document.recordings.isEmpty = false := by
  cases hrecordings : document.recordings with
  | nil =>
    have hnone := h.recordings
    rw [hrecordings] at hnone
    cases hnone
  | cons recording outer => rfl

theorem addText (h : Keeping ground id above events document) (text : String) :
    Keeping ground id above events (document.addText text) ∧
      (document.addText text).recordedText = document.recordedText ++ text := by
  have hstanding := document.addText_standing text
  constructor
  · exact
      { rootSeen := (congrArg Standing.rootSeen hstanding).trans h.rootSeen
        replayDepth := (congrArg Standing.replayDepth hstanding).trans h.replayDepth
        clip := (congrArg Scope.clip (document.addText_scope text)).trans h.clip
        openElements := (congrArg Standing.openElements hstanding).trans h.openElements
        recorded := h.recorded
        recordings := by
          rw [addText_recordings]
          exact h.recordings }
  · have hmode : (!document.recordings.isEmpty && document.replayDepth == 0 && document.clip.isNone) = true := by
      rw [h.isEmpty_recordings, h.replayDepth, h.clip]
      rfl
    simp only [Document.addText, hmode, if_true]
    split <;> rfl

/-- A start tag with another id is recorded. -/
theorem recordStart (h : Keeping ground id above events document) {attributes : Attributes}
    {kind : ElementKind} (hkind : kind.isRecorded = true) (hid : attributes.get? "id" ≠ some id) :
    let result := document.recordStart name attributes kind
    result.2.1 = true ∧ result.1.recordedText = "" ∧
      result.1.recordings[above.countP OpenElement.defines + if result.2.2 then 1 else 0]? =
        some (.holding id (events ++ [DefinitionEvent.startTag name attributes document.recordedText])) := by
  have hmode : (decide (0 < document.replayDepth) || document.clip.isSome || !kind.isRecorded) = false := by
    rw [h.replayDepth, h.clip, hkind]
    rfl
  have hpushed (event : DefinitionEvent) :
      (document.recordings.map (·.push event))[above.countP OpenElement.defines]? =
        some (.holding id (events ++ [event])) := by
    rw [List.getElem?_map, h.recordings, Option.map_some, Recording.push_holding]
  simp only [Document.recordStart, hmode, h.isEmpty_recordings, Bool.false_eq_true, if_false]
  cases hown : (attributes.get? "id").filter (!·.isEmpty) with
  | none => exact ⟨rfl, rfl, hpushed _⟩
  | some own =>
    have hother : own ≠ id := by
      rintro rfl
      exact hid (Option.filter_eq_some_iff.1 hown).1
    refine ⟨rfl, rfl, ?_⟩
    dsimp only
    rw [if_pos rfl, List.getElem?_cons_succ, List.getElem?_map, recordEvent, hpushed, Option.map_some,
      Recording.supersede_holding hother]

/-- The start tag of an element inside is recorded, before anything else is done about it. -/
theorem opens (h : Keeping ground id above events document) {setting : Setting α} {kind : ElementKind}
    {attributes : Attributes} (hkind : kind.isSelfContained = true) (hid : attributes.get? "id" ≠ some id)
    {opened : Document α} {opening : Opening α}
    (hopens : Opens setting (document.recordStart name attributes kind).1 kind opened opening) :
    let result := document.recordStart name attributes kind
    let element : OpenElement α := ⟨opening.closing, result.2.1, result.2.2⟩
    Keeping ground id (element :: above) (events ++ [DefinitionEvent.startTag name attributes document.recordedText])
      (opened.push element) ∧ opened.recordedText = "" := by
  obtain ⟨hrecorded, htext, hrecordings⟩ :=
    h.recordStart (ElementKind.isRecorded_of_isSelfContained hkind) hid
  have hrecords := recordStart_records document name attributes kind
  have hstanding := hopens.standing_eq.trans hrecords.standing_eq
  have hsame : opened.recordings = _ := congrArg Archive.recordings hopens.archive_eq
  have hclip : (document.recordStart name attributes kind).1.clip = none :=
    (congrArg Scope.clip hrecords.scope_eq).trans h.clip
  refine ⟨?_, (congrArg Archive.recordedText hopens.archive_eq).trans htext⟩
  exact
    { rootSeen := (congrArg Standing.rootSeen hstanding).trans h.rootSeen
      replayDepth := (congrArg Standing.replayDepth hstanding).trans h.replayDepth
      clip := hopens.clip_eq_none (ElementKind.ne_clipPath_of_isSelfContained hkind) hclip
      openElements := congrArg (_ :: ·) ((congrArg Standing.openElements hstanding).trans h.openElements)
      recorded := List.forall_mem_cons.2 ⟨hrecorded, h.recorded⟩
      recordings := by
        rw [List.countP_cons, push, hsame]
        exact hrecordings }

/-- So is the end tag of an element inside. -/
theorem ends {element : OpenElement α} (h : Keeping ground id (element :: above) events document)
    {result : Document α}
    (hends : Ends { document with openElements := above ++ ground } element name result) :
    Keeping ground id above (events ++ [DefinitionEvent.endTag name document.recordedText]) result ∧
      result.recordedText = "" := by
  obtain ⟨helement, habove⟩ := List.forall_mem_cons.1 h.recorded
  have hstanding := hends.standing_eq
  have hclip : result.clip = none := by
    have hundone := congrArg Scope.clip hends.scope_eq
    exact hundone.trans (Closing.undo_clip_eq_none h.clip)
  obtain ⟨closed, hcloses, hresult⟩ := hends
  rw [if_pos helement] at hcloses
  have hrecordings : closed.recordings = document.recordings.map (·.push (.endTag name document.recordedText)) :=
    congrArg Archive.recordings hcloses.archive_eq
  have htext : closed.recordedText = "" := congrArg Archive.recordedText hcloses.archive_eq
  have hpushed : closed.recordings[(element :: above).countP OpenElement.defines]? =
      some (.holding id (events ++ [DefinitionEvent.endTag name document.recordedText])) := by
    rw [hrecordings, List.getElem?_map, h.recordings, Option.map_some, Recording.push_holding]
  have hkept : result.recordings[above.countP OpenElement.defines]? =
      some (.holding id (events ++ [DefinitionEvent.endTag name document.recordedText])) ∧
        result.recordedText = "" := by
    rw [List.countP_cons] at hpushed
    cases hdefines : element.defines with
    | false =>
      rw [hdefines, if_neg Bool.false_ne_true] at hresult hpushed
      rw [hresult]
      exact ⟨hpushed, htext⟩
    | true =>
      rw [hdefines, if_pos rfl] at hresult hpushed
      rw [hresult, Document.finishRecording]
      split
      next hnone =>
        rw [hnone] at hpushed
        cases hpushed
      next recording outer hsome =>
        rw [hsome, List.getElem?_cons_succ] at hpushed
        refine ⟨hpushed, ?_⟩
        dsimp only
        rw [htext, ite_self]
  refine ⟨?_, hkept.2⟩
  exact
    { rootSeen := (congrArg Standing.rootSeen hstanding).trans h.rootSeen
      replayDepth := (congrArg Standing.replayDepth hstanding).trans h.replayDepth
      clip := hclip
      openElements := congrArg Standing.openElements hstanding
      recorded := habove
      recordings := hkept.1 }

/-- The end tag of the element itself completes its definition. -/
theorem finish {element : OpenElement α} {outer : List (OpenElement α)}
    (h : Keeping (element :: outer) id [] events document) (hrecorded : element.recorded = true)
    (hdefines : element.defines = true) {result : Document α}
    (hends : Ends { document with openElements := outer } element name result) :
    result.definitions.get? id =
      some (.complete (events ++ [.endTag name document.recordedText])) := by
  obtain ⟨closed, hcloses, hresult⟩ := hends
  rw [if_pos hrecorded] at hcloses
  have hrecordings : closed.recordings = document.recordings.map (·.push (.endTag name document.recordedText)) :=
    congrArg Archive.recordings hcloses.archive_eq
  have hpushed : closed.recordings[0]? =
      some (.holding id (events ++ [DefinitionEvent.endTag name document.recordedText])) := by
    have hfirst : document.recordings[0]? = some (.holding id events) := h.recordings
    rw [hrecordings, List.getElem?_map, hfirst, Option.map_some, Recording.push_holding]
  rw [hresult, if_pos hdefines, Document.finishRecording]
  split
  next hnone =>
    rw [hnone] at hpushed
    cases hpushed
  next recording others hsome =>
    rw [hsome] at hpushed
    cases hpushed
    have hcurrent : (Recording.holding id (events ++ [.endTag name document.recordedText])).superseded = false := rfl
    dsimp only
    rw [hcurrent, if_neg Bool.false_ne_true]
    exact (Table.get?_set ..).trans (if_pos rfl)

/-- From the start tag of an element with an id on, the element is recorded under that id. -/
theorem begins {setting : Setting α} {attributes : Attributes} {kind : ElementKind}
    (hroot : document.rootSeen = true) (hreplay : document.replayDepth = 0) (hclip : document.clip = none)
    (hkind : kind.isSelfContained = true) (hid : attributes.get? "id" = some id) (hnonempty : id ≠ "")
    {opened : Document α} {opening : Opening α}
    (hopens : Opens setting (document.recordStart name attributes kind).1 kind opened opening) :
    (document.recordStart name attributes kind).2 = (true, true) ∧ opened.recordedText = "" ∧
      ∃ leadingText, Keeping (⟨opening.closing, true, true⟩ :: document.openElements) id []
        [.startTag name attributes leadingText] (opened.push ⟨opening.closing, true, true⟩) := by
  obtain ⟨leadingText, hstart⟩ := recordStart_own hreplay hclip
    (ElementKind.isRecorded_of_isSelfContained hkind) hid hnonempty
  rw [hstart] at hopens
  have hstanding : opened.standing = document.standing := hopens.standing_eq
  have hrecordings : opened.recordings = _ := congrArg Archive.recordings hopens.archive_eq
  refine ⟨congrArg Prod.snd hstart, congrArg Archive.recordedText hopens.archive_eq, leadingText, ?_⟩
  exact
    { rootSeen := (congrArg Standing.rootSeen hstanding).trans hroot
      replayDepth := (congrArg Standing.replayDepth hstanding).trans hreplay
      clip := hopens.clip_eq_none (ElementKind.ne_clipPath_of_isSelfContained hkind) hclip
      openElements := congrArg (_ :: ·) (congrArg Standing.openElements hstanding)
      recorded := List.forall_mem_nil _
      recordings := by
        rw [push, hrecordings]
        rfl }

end Keeping

end Document

namespace Draw

variable [Scalar α] {setting : Setting α} {embed : Option (Embedding α)} {drawing next : Drawing α}

omit [Scalar α] in
theorem embedDocument_document {embed : Embedding α} {inner : Setting α} {markup : String}
    {result : Except (Failure α) Unit} (h : embedDocument embed inner markup drawing = (result, next)) :
    next.document = drawing.document := by
  rw [embedDocument] at h
  split at h <;> cases h <;> rfl

/-- Once its start tag has been handled, an element that is no `use` is open. -/
theorem carryOut_ok {start : Option (StartHandler α)} {opening : Opening α} {recorded defines : Bool}
    (hopening : ∀ id tags, opening ≠ .expansion id tags)
    (h : (carryOut setting embed start opening >>= fun closing => change (·.push ⟨closing, recorded, defines⟩))
      drawing = (.ok (), next)) :
    next.document = drawing.document.push ⟨opening.closing, recorded, defines⟩ := by
  cases opening with
  | element closing =>
    cases h
    rfl
  | expansion id tags => exact absurd rfl (hopening id tags)
  | embedding inner markup =>
    cases embed with
    | none =>
      cases h
      rfl
    | some embed =>
      simp only [carryOut, bind_assoc, pure_bind] at h
      obtain ⟨⟨⟩, after, hdrawn, hbind⟩ | ⟨failure, after, hdrawn, hbind⟩ :=
        bind_cases (embedDocument embed inner markup)
          (fun _ => change (·.push ⟨.nothing, recorded, defines⟩)) drawing
      · rw [hbind] at h
        cases h
        exact congrArg (Document.push · _) (embedDocument_document hdrawn)
      · rw [hbind] at h
        cases h

theorem startTag_ok {levels : Nat} {name : String} {attributes : Attributes}
    (hroot : drawing.document.rootSeen = true) (hname : ElementKind.ofName name ≠ .use)
    (h : startTag setting embed levels name attributes drawing = (.ok (), next)) :
    let begun := (drawing.document.beginTag setting name attributes drawing.ledger).1
    next.document = begun.1.push ⟨begun.2.opening.closing, begun.2.recorded, begun.2.defines⟩ := by
  obtain ⟨recording, hrecords, hopens⟩ := beginTag_eq setting drawing.document name attributes drawing.ledger
  have hexpansion (id tags) : (drawing.document.beginTag setting name attributes drawing.ledger).1.2.opening ≠
      .expansion id tags := fun hexpands => hname (hexpands ▸ hopens).kind_of_expansion
  obtain ⟨start, hstart⟩ := exists_startTagWith setting embed levels
  rw [hstart, startTagWith_apply setting embed start name attributes hroot] at h
  exact carryOut_ok hexpansion h

theorem endTag_ends {element : OpenElement α} {outer : List (OpenElement α)} {name : String}
    (helements : drawing.document.openElements = element :: outer)
    (h : endTag setting name drawing = (.ok (), next)) :
    Ends { drawing.document with openElements := outer } element name next.document := by
  rw [endTag_cons setting name helements] at h
  cases h
  exact endElement_ends setting _ element name drawing.ledger

theorem events_singleton (event : MarkupEvent) :
    Draw.events setting embed [event] = Draw.event setting embed event := bind_pure _

theorem events_append (first second : List MarkupEvent) :
    Draw.events setting embed (first ++ second) =
      (Draw.events setting embed first >>= fun _ => Draw.events setting embed second) := by
  induction first with
  | nil => rfl
  | cons event rest ih => simp only [List.cons_append, Draw.events, ih, bind_assoc]

end Draw

namespace Document.Keeping

variable [Scalar α] {setting : Setting α} {embed : Option (Embedding α)} {drawing next : Drawing α}
  {ground above : List (OpenElement α)} {id : String} {events : List DefinitionEvent}

/-- Whatever is drawn inside an element is recorded as its transcript. -/
theorem draws {content : List MarkupEvent} (h : Keeping ground id above events drawing.document)
    (hdepth : Tag.depthAfter above.length (MarkupEvent.tags content) = some 0)
    (hkinds : ∀ name attributes, .startTag name attributes ∈ content →
      (ElementKind.ofName name).isSelfContained = true ∧ attributes.get? "id" ≠ some id)
    (hdrawn : Draw.events setting embed content drawing = (.ok (), next)) :
    let script := MarkupEvent.transcript drawing.document.recordedText content
    Keeping ground id [] (events ++ script.1) next.document ∧ next.document.recordedText = script.2 := by
  induction content generalizing above events drawing with
  | nil =>
    cases hdrawn
    cases above with
    | nil =>
      refine ⟨?_, rfl⟩
      change Keeping ground id [] (events ++ []) _
      rw [List.append_nil]
      exact h
    | cons element above => cases hdepth
  | cons event rest ih =>
    have hrest (name attributes) (hmem : .startTag name attributes ∈ rest) :=
      hkinds name attributes (List.mem_cons_of_mem _ hmem)
    obtain ⟨⟨⟩, middle, hevent, hbind⟩ | ⟨failure, middle, hevent, hbind⟩ :=
      Draw.bind_cases (Draw.event setting embed event) (fun _ => Draw.events setting embed rest) drawing
    · have hlast : Draw.events setting embed rest middle = (.ok (), next) := hbind.symm.trans hdrawn
      cases event with
      | text more =>
        cases hevent
        obtain ⟨hkept, htext⟩ := h.addText more
        have hall := ih hkept hdepth hrest hlast
        dsimp only at hall
        rw [htext] at hall
        exact hall
      | startTag name attributes =>
        obtain ⟨hself, hid⟩ := hkinds name attributes List.mem_cons_self
        have hmiddle := Draw.startTag_ok h.rootSeen (ElementKind.ne_use_of_isSelfContained hself) hevent
        obtain ⟨hkept, htext⟩ := h.opens hself hid
          (openElement_opens setting _ attributes drawing.ledger (.ofName name))
        have hsame : middle.document.recordedText = "" := (congrArg Document.recordedText hmiddle).trans htext
        have hall := ih (hmiddle ▸ hkept) hdepth hrest hlast
        dsimp only at hall
        rw [hsame, List.append_assoc] at hall
        exact hall
      | endTag name =>
        cases above with
        | nil => cases hdepth
        | cons element above =>
          have helements : drawing.document.openElements = element :: (above ++ ground) := h.openElements
          obtain ⟨hkept, htext⟩ := h.ends (Draw.endTag_ends helements hevent)
          have hall := ih hkept hdepth hrest hlast
          dsimp only at hall
          rw [htext, List.append_assoc] at hall
          exact hall
    · cases hbind.symm.trans hdrawn

end Document.Keeping

/-- An element with an id is recorded as it is drawn: its start tag, and the transcript of the rest. -/
theorem Draw.definitions_of_events [Scalar α] {setting : Setting α} {embed : Option (Embedding α)}
    {drawing next : Drawing α} {name id : String} {attributes : Attributes} {content : List MarkupEvent}
    (hroot : drawing.document.rootSeen = true) (hreplay : drawing.document.replayDepth = 0)
    (hclip : drawing.document.clip = none) (hkind : (ElementKind.ofName name).isSelfContained = true)
    (hid : attributes.get? "id" = some id) (hnonempty : id ≠ "")
    (hcontent : Tag.openAfter [] (MarkupEvent.tags content) = some [])
    (hkinds : ∀ name attributes, .startTag name attributes ∈ content →
      (ElementKind.ofName name).isSelfContained = true ∧ attributes.get? "id" ≠ some id)
    (hdrawn : Draw.events setting embed (.startTag name attributes :: (content ++ [.endTag name])) drawing =
      (.ok (), next)) :
    ∃ leadingText, next.document.definitions.get? id = some (.complete (.startTag name attributes leadingText ::
      (MarkupEvent.transcript "" (content ++ [.endTag name])).1)) := by
  obtain ⟨⟨⟩, opened, hevent, hbind⟩ | ⟨failure, opened, hevent, hbind⟩ :=
    Draw.bind_cases (Draw.event setting embed (.startTag name attributes))
      (fun _ => Draw.events setting embed (content ++ [.endTag name])) drawing
  · have hinside := hbind.symm.trans hdrawn
    rw [Draw.events_append] at hinside
    have hopens := openElement_opens setting (drawing.document.recordStart name attributes (.ofName name)).1
      attributes drawing.ledger (.ofName name)
    obtain ⟨hflags, htext, leadingText, hbegins⟩ :=
      Keeping.begins hroot hreplay hclip hkind hid hnonempty hopens
    have hrecorded : (drawing.document.beginTag setting name attributes drawing.ledger).1.2.recorded = true :=
      congrArg Prod.fst hflags
    have hdefines : (drawing.document.beginTag setting name attributes drawing.ledger).1.2.defines = true :=
      congrArg Prod.snd hflags
    have hopened := Draw.startTag_ok hroot (ElementKind.ne_use_of_isSelfContained hkind) hevent
    dsimp only at hopened
    rw [hrecorded, hdefines] at hopened
    have hkeeping := hopened ▸ hbegins
    have hempty : opened.document.recordedText = "" := (congrArg Document.recordedText hopened).trans htext
    obtain ⟨⟨⟩, last, hlast, hbind'⟩ | ⟨failure, last, hlast, hbind'⟩ :=
      Draw.bind_cases (Draw.events setting embed content)
        (fun _ => Draw.events setting embed [.endTag name]) opened
    · have hend := hbind'.symm.trans hinside
      obtain ⟨hkept, hscript⟩ := hkeeping.draws (Tag.depthAfter_of_openAfter hcontent) hkinds hlast
      rw [hempty] at hkept hscript
      rw [Draw.events_singleton] at hend
      have hfinished := hkept.finish rfl rfl (Draw.endTag_ends hkept.openElements hend)
      refine ⟨leadingText, ?_⟩
      rw [MarkupEvent.transcript_append_endTag, ← hscript]
      exact hfinished
    · cases hbind'.symm.trans hinside
  · cases hbind.symm.trans hdrawn

end SvgPage
