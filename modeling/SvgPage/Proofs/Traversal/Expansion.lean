import SvgPage.Proofs.Element.Reference
import SvgPage.Proofs.Exact
import SvgPage.Proofs.Traversal.Reached
import SvgPage.Proofs.Traversal.Recorded
import SvgPage.Proofs.Traversal.Unseen

namespace SvgPage

open Document

variable {α : Type}

namespace Document

variable [Scalar α] {setting : Setting α} {document : Document α}

/-- A `use` does not change a document, whether it is expanded or left out. -/
theorem openElement_use (hmode : document.clip ≠ none ∨ document.definitionsDepth = 0) (attributes : Attributes)
    (ledger : Ledger α) :
    document.openElement setting .use attributes ledger =
      ((document, (document.openUse setting attributes ledger).1),
        (document.openUse setting attributes ledger).2) := by
  cases hclip : document.clip with
  | some clip =>
    simp only [openElement, hclip]
    rfl
  | none =>
    have hdepth := hmode.resolve_left (not_not_intro hclip)
    simp only [openElement, hclip, hdepth, Nat.lt_irrefl, if_false]
    rfl

/-- A `use` whose reference can be followed is expanded. -/
theorem openUse_of_found {id name : String} {attributes own : Attributes} {leadingText : String}
    {rest : List DefinitionEvent}
    (hfound : document.findUse? attributes = some (id, .complete (.startTag name own leadingText :: rest)))
    (hexpanding : id ∉ document.expanding)
    (hlimit : setting.options.nesting.isReached document.expanding.length = false) (ledger : Ledger α) :
    document.openUse setting attributes ledger =
      (.expansion id (.startTag (Use.merge α name own attributes).1 (Use.merge α name own attributes).2 "" ::
        rest), ledger) := by
  have hcontains : document.expanding.contains id = false := by
    simpa using hexpanding
  simp only [openUse, hfound, hcontains, hlimit, Bool.false_eq_true, if_false]
  rfl

theorem openUse_of_complete {id name : String} {own : Attributes} {leadingText : String}
    {rest : List DefinitionEvent} (hnonempty : id ≠ "") (htrim : Text.trimEnd id = id)
    (hcomplete : document.definitions.get? id = some (.complete (.startTag name own leadingText :: rest)))
    (hexpanding : id ∉ document.expanding)
    (hlimit : setting.options.nesting.isReached document.expanding.length = false) (ledger : Ledger α) :
    document.openUse setting (Use.reference id) ledger =
      (.expansion id (.startTag (Use.merge α name own (Use.reference id)).1
        (Use.merge α name own (Use.reference id)).2 "" :: rest), ledger) := by
  have hfound : document.findUse? (Use.reference id) =
      some (id, .complete (.startTag name own leadingText :: rest)) := by
    simp only [findUse?, Use.href?_reference, Option.bind_eq_bind, Option.bind_some,
      Css.readLink?_hash (htrim.symm ▸ hnonempty), htrim, hcomplete]
    rfl
  exact openUse_of_found hfound hexpanding hlimit ledger

/-- So it is expanded after its own start tag has been recorded. -/
theorem openElement_of_complete {id use name : String} {own : Attributes} {leadingText : String}
    {rest : List DefinitionEvent} (huse : ElementKind.ofName use = .use)
    (hmode : document.clip ≠ none ∨ document.definitionsDepth = 0) (hnonempty : id ≠ "")
    (htrim : Text.trimEnd id = id)
    (hcomplete : document.definitions.get? id = some (.complete (.startTag name own leadingText :: rest)))
    (hexpanding : id ∉ document.expanding)
    (hlimit : setting.options.nesting.isReached document.expanding.length = false) (ledger : Ledger α) :
    let recorded := document.recordStart use (Use.reference id) (.ofName use)
    let merged := Use.merge α name own (Use.reference id)
    recorded.1.openElement setting (.ofName use) (Use.reference id) ledger =
      ((recorded.1, .expansion id (.startTag merged.1 merged.2 "" :: rest)), ledger) := by
  intro recorded merged
  have hrecords : Records document use (Use.reference id) recorded.1 recorded.2.1 recorded.2.2 :=
    recordStart_records document use (Use.reference id) (.ofName use)
  have hdefinitions := hrecords.definitions_eq (Use.get?_reference (by decide))
  have hexpandings : recorded.1.expanding = document.expanding := congrArg Standing.expanding hrecords.standing_eq
  have hclip : recorded.1.clip = document.clip := congrArg Scope.clip hrecords.scope_eq
  have hdepth : recorded.1.definitionsDepth = document.definitionsDepth :=
    congrArg Scope.definitionsDepth hrecords.scope_eq
  rw [← hclip, ← hdepth] at hmode
  rw [huse, openElement_use hmode, openUse_of_complete hnonempty htrim (hdefinitions ▸ hcomplete)
    (hexpandings ▸ hexpanding) (hexpandings ▸ hlimit)]

/-- Inside definitions a `use` is left out. -/
theorem openElement_use_of_definitions {use : String} (huse : ElementKind.ofName use = .use)
    (hclip : document.clip = none) (hdepth : 0 < document.definitionsDepth) (attributes : Attributes)
    (ledger : Ledger α) :
    let recorded := document.recordStart use attributes (.ofName use)
    recorded.1.openElement setting (.ofName use) attributes ledger = ((recorded.1, .inert), ledger) := by
  intro recorded
  have hscope : recorded.1.scope = document.scope := (recordStart_records document use attributes _).scope_eq
  have hnone : recorded.1.clip = none := (congrArg Scope.clip hscope).trans hclip
  have hinside : 0 < recorded.1.definitionsDepth :=
    Nat.lt_of_lt_of_eq hdepth (congrArg Scope.definitionsDepth hscope).symm
  rw [huse]
  simp only [openElement, hnone, hinside, if_true]
  rfl

end Document

namespace Draw

variable [Scalar α] {setting : Setting α} {embed : Option (Embedding α)} {drawing : Drawing α}

omit [Scalar α] in
/-- As long as the limit is not reached there is a level left for a use. -/
theorem useLevels_pos {document : Document α} (hregistered : document.Registered)
    (hlimit : setting.options.nesting.isReached document.expanding.length = false) :
    ∃ levels, useLevels setting document = levels + 1 := by
  have hroom : document.expanding.length ≤ document.definitions.names.length :=
    (List.subperm_of_subset hregistered.nodup hregistered.expanding).length_le
  rw [Table.names, List.length_map] at hroom
  refine Nat.exists_eq_add_one_of_ne_zero ?_
  rw [useLevels, Table.size]
  cases hlevels : setting.options.nesting.levels with
  | some levels =>
    rw [NestingLimit.isReached, hlevels, Option.any_some, decide_eq_false_iff_not] at hlimit
    rw [Option.getD_some]
    omega
  | none =>
    rw [Option.getD_none]
    omega

/-- In an expansion, where nothing is recorded, attributes that say the same make no difference. -/
theorem startTag_congr {first second : Attributes} (h : first.Alike second) {name : String}
    (hname : (ElementKind.ofName name).isSelfContained = true) (himage : ElementKind.ofName name ≠ .image)
    (hroot : drawing.document.rootSeen = true) (hreplay : 0 < drawing.document.replayDepth) (levels : Nat) :
    startTag setting embed levels name first drawing = startTag setting embed levels name second drawing := by
  have hbegun : drawing.document.beginTag setting name first =
      drawing.document.beginTag setting name second := by
    simp only [beginTag, recordStart_of_replaying hreplay, openElement_congr setting drawing.document h hname himage]
  obtain ⟨start, hstart⟩ := exists_startTagWith setting embed levels
  rw [hstart, startTagWith_apply setting embed start name first hroot,
    startTagWith_apply setting embed start name second hroot, hbegun]

/-- So they make none in the tag with which an expansion begins. -/
theorem replay_congr {first second : Attributes} (h : first.Alike second) {name : String}
    (hname : (ElementKind.ofName name).isSelfContained = true) (himage : ElementKind.ofName name ≠ .image)
    (hroot : drawing.document.rootSeen = true) (hreplay : 0 < drawing.document.replayDepth) (levels : Nat)
    (leadingText : String) (tags : List DefinitionEvent) :
    replay setting (startTag setting embed levels) (.startTag name first leadingText :: tags) drawing =
      replay setting (startTag setting embed levels) (.startTag name second leadingText :: tags) drawing := by
  let read : Drawing α := { drawing with document := drawing.document.addText leadingText }
  have hread : characters leadingText drawing = (.ok (), read) := rfl
  have hstanding := drawing.document.addText_standing leadingText
  have hroot' : read.document.rootSeen = true := (congrArg Standing.rootSeen hstanding).trans hroot
  have hreplay' : 0 < read.document.replayDepth :=
    Nat.lt_of_lt_of_eq hreplay (congrArg Standing.replayDepth hstanding).symm
  rw [replay, replay, bind_ok hread, bind_ok hread]
  exact bind_congr_apply (startTag_congr h hname himage hroot' hreplay' levels) _

omit [Scalar α] in
theorem Mirrors.of_characters_empty {result : Except (Failure α) Unit × Drawing α} {action : Draw α Unit}
    (h : Mirrors result ((action >>= fun _ => characters "") drawing)) : Mirrors result (action drawing) := by
  obtain ⟨⟨⟩, after, haction, hbind⟩ | ⟨failure, after, haction, hbind⟩ :=
    bind_cases action (fun _ => characters "") drawing
  · rw [hbind] at h
    rw [haction]
    have hread : characters "" after = (.ok (), { after with document := after.document.addText "" }) := rfl
    rw [hread] at h
    exact h.of_plain (addText_empty after.document).symm
  · rw [hbind] at h
    rw [haction]
    exact h

/-- An element that does nothing leaves nothing behind. -/
theorem push_endTag (recorded defines : Bool) (name : String) (hroot : drawing.document.rootSeen = true) :
    Mirrors
      ((change (·.push ⟨.nothing, recorded, defines⟩) >>= fun _ => endTag setting name) drawing)
      (.ok (), drawing) := by
  let pushed : Drawing α :=
    { drawing with document := drawing.document.push ⟨.nothing, recorded, defines⟩ }
  have hpushed : pushed.document.openElements = ⟨.nothing, recorded, defines⟩ :: drawing.document.openElements :=
    rfl
  have hjoined : (change (·.push ⟨.nothing, recorded, defines⟩) >>= fun _ => endTag setting name) drawing =
      endTag setting name pushed := rfl
  have hended := endElement_plain setting drawing.document drawing.ledger ⟨.nothing, recorded, defines⟩ name
  have hsame : drawing.document.plain.endElement setting (OpenElement.plain ⟨.nothing, recorded, defines⟩) name
      drawing.ledger = (drawing.document.plain, drawing.ledger) := rfl
  obtain ⟨hplain, hledger⟩ := Prod.mk.inj (hsame.symm.trans hended)
  rw [hjoined, endTag_cons setting name hpushed]
  exact ⟨rfl, (congrArg Document.rootSeen hplain).symm.trans hroot, hledger.symm, hplain.symm, rfl⟩

/-- What an element without content does whose start tag leaves the document as it is. -/
theorem events_pair {start : Option (StartHandler α)} {name : String} {attributes : Attributes}
    {opening : Opening α} (hroot : drawing.document.rootSeen = true)
    (hstart : startTag setting embed (useLevels setting drawing.document) = startTagWith setting embed start)
    (hopened :
      let recorded := drawing.document.recordStart name attributes (.ofName name)
      recorded.1.openElement setting (.ofName name) attributes drawing.ledger =
        ((recorded.1, opening), drawing.ledger)) :
    let recorded := drawing.document.recordStart name attributes (.ofName name)
    Draw.events setting embed [.startTag name attributes, .endTag name] drawing =
      (carryOut setting embed start opening >>= fun closing =>
        (change (·.push ⟨closing, recorded.2.1, recorded.2.2⟩) >>= fun _ => endTag setting name))
        { drawing with document := recorded.1 } := by
  have hbegun : drawing.document.beginTag setting name attributes drawing.ledger =
      (((drawing.document.recordStart name attributes (.ofName name)).1,
        ⟨opening, (drawing.document.recordStart name attributes (.ofName name)).2.1,
          (drawing.document.recordStart name attributes (.ofName name)).2.2⟩), drawing.ledger) := by
    simp only [beginTag, bind_apply, pure_apply, hopened]
  have hjoined : Draw.events setting embed [.startTag name attributes, .endTag name] drawing =
      (startTag setting embed (useLevels setting drawing.document) name attributes >>= fun _ =>
        endTag setting name) drawing := by
    rw [← List.singleton_append, events_append, events_singleton, events_singleton]
    rfl
  have happly := startTagWith_apply setting embed start name attributes hroot
  rw [hbegun] at happly
  rw [hjoined, hstart, bind_congr_apply happly, bind_assoc]

/-- Nothing shows of a `use` that is left out without a notice. -/
theorem use_of_inert {use : String} {attributes : Attributes} (hroot : drawing.document.rootSeen = true)
    (hinert :
      let recorded := drawing.document.recordStart use attributes (.ofName use)
      recorded.1.openElement setting (.ofName use) attributes drawing.ledger =
        ((recorded.1, .inert), drawing.ledger)) :
    Mirrors (.ok (), drawing) (Draw.events setting embed [.startTag use attributes, .endTag use] drawing) := by
  obtain ⟨start, hstart⟩ := exists_startTagWith setting embed (useLevels setting drawing.document)
  have hplain := recordStart_plain drawing.document use attributes (.ofName use)
  let opened : Drawing α :=
    { drawing with document := (drawing.document.recordStart use attributes (.ofName use)).1 }
  have hseen : opened.document.rootSeen = true := (congrArg Document.rootSeen hplain).trans hroot
  rw [events_pair hroot hstart hinert]
  have hclosed (recorded defines : Bool) :
      Mirrors ((change (·.push ⟨.nothing, recorded, defines⟩) >>= fun _ => endTag setting use) opened)
        (.ok (), opened) := push_endTag recorded defines use hseen
  exact ((hclosed _ _).of_plain hplain.symm).symm

/-- A `use` that is expanded does what the tags do that it is expanded to. -/
theorem use_of_expansion {use id : String} {attributes : Attributes} {tags : List DefinitionEvent} {levels : Nat}
    {result : Except (Failure α) Unit × Drawing α} (hroot : drawing.document.rootSeen = true)
    (hlevels : useLevels setting drawing.document = levels + 1)
    (hopened :
      let recorded := drawing.document.recordStart use attributes (.ofName use)
      recorded.1.openElement setting (.ofName use) attributes drawing.ledger =
        ((recorded.1, .expansion id tags), drawing.ledger))
    (h :
      let recorded := drawing.document.recordStart use attributes (.ofName use)
      Mirrors result (replay setting (startTag setting embed levels) tags
        { drawing with document := recorded.1.beginExpansion id })) :
    Mirrors result (Draw.events setting embed [.startTag use attributes, .endTag use] drawing) := by
  have hstart : startTag setting embed (useLevels setting drawing.document) =
      startTagWith setting embed (some (startTag setting embed levels)) := by
    rw [hlevels]
    rfl
  rw [events_pair hroot hstart hopened]
  simp only [carryOut, bind_assoc, pure_bind]
  dsimp only at h
  cases hreplayed : replay setting (startTag setting embed levels) tags
      { drawing with
        document := (drawing.document.recordStart use attributes (.ofName use)).1.beginExpansion id } with
  | mk outcome after =>
    rw [hreplayed] at h
    have hexpanded : whileExpanding id (replay setting (startTag setting embed levels) tags)
        { drawing with document := (drawing.document.recordStart use attributes (.ofName use)).1 } =
          (outcome, { after with document := after.document.endExpansion id }) := by
      simp only [whileExpanding, hreplayed]
    have hover := h.of_plain (rfl : (after.document.endExpansion id).plain = after.document.plain)
    cases outcome with
    | ok outcome =>
      rw [bind_ok hexpanded]
      exact hover.trans (push_endTag _ _ use hover.2.symm.rootSeen).symm
    | error failure =>
      rw [bind_error hexpanded]
      exact hover

variable (embed) in
/-- A `use` of an element that has been recorded does what the element does where it is inlined. -/
theorem events_mirrors_use [Scalar.Comparable α] {id use name leadingText : String} {own : Attributes}
    {tags : List DefinitionEvent} {inlined : List MarkupEvent} (hroot : drawing.document.rootSeen = true)
    (hregistered : drawing.document.Registered) (huse : ElementKind.ofName use = .use) (hnonempty : id ≠ "")
    (htrim : Text.trimEnd id = id)
    (hcomplete : drawing.document.definitions.get? id = some (.complete (.startTag name own leadingText :: tags)))
    (hexpanding : id ∉ drawing.document.expanding)
    (hlimit : setting.options.nesting.isReached drawing.document.expanding.length = false)
    (himage : ElementKind.ofName name ≠ .image) (hsymbol : ElementKind.ofName name ≠ .symbol)
    (hkinds : ∀ name attributes, .startTag name attributes ∈ inlined →
      (ElementKind.ofName name).isSelfContained = true)
    (hdepth : Tag.depthAfter 0 (MarkupEvent.tags inlined) = some 0)
    (hscript : MarkupEvent.transcript "" inlined = (.startTag name (own.erase "id") "" :: tags, "")) :
    Mirrors (Draw.events setting embed inlined drawing)
      (Draw.events setting embed [.startTag use (Use.reference id), .endTag use] drawing) := by
  have hname : (ElementKind.ofName name).isSelfContained = true := by
    have hmem : MarkupEvent.startTag name (own.erase "id") ∈
        (MarkupEvent.transcript "" inlined).1.map DefinitionEvent.event := by
      rw [hscript]
      exact List.mem_cons_self
    rw [MarkupEvent.transcript_events] at hmem
    exact hkinds name _ (List.mem_filter.1 hmem).1
  by_cases hmode : drawing.document.clip ≠ none ∨ drawing.document.definitionsDepth = 0
  · -- The `use` is expanded, and its expansion does what the tags do.
    have hopened := openElement_of_complete huse hmode hnonempty htrim hcomplete hexpanding hlimit drawing.ledger
    obtain ⟨levels, hlevels⟩ := useLevels_pos hregistered hlimit
    refine use_of_expansion hroot hlevels hopened ?_
    obtain ⟨hmerged, halike⟩ := Use.merge_reference (α := α) hsymbol id own
    let recorded := drawing.document.recordStart use (Use.reference id) (.ofName use)
    let begun : Drawing α := { drawing with document := recorded.1.beginExpansion id }
    have hplain : recorded.1.plain = drawing.document.plain := recordStart_plain drawing.document use _ _
    have hbegun : drawing.Matches begun := (Drawing.Matches.refl hroot).of_plain hplain
    have hreplayed := events_mirrors setting embed levels
      (fun name attributes hmem => ElementKind.ne_use_of_isSelfContained (hkinds name attributes hmem))
      (hbegun.of_plain (addText_empty begun.document))
    rw [hscript] at hreplayed
    have hinlined := hreplayed.of_characters_empty
    have hsame : replay setting (startTag setting embed levels) (.startTag name _ "" :: tags) begun = _ :=
      replay_congr halike hname himage hbegun.symm.rootSeen (Nat.succ_pos _) levels "" tags
    rw [← hsame] at hinlined
    rw [hmerged]
    exact hinlined
  · -- Nothing of either shows among definitions.
    obtain ⟨hclip, hdeep⟩ := not_or.1 hmode
    have hnone : drawing.document.clip = none := not_not.1 hclip
    have hinside : 0 < drawing.document.definitionsDepth := Nat.pos_of_ne_zero hdeep
    have hquiet : Mirrors (Draw.events setting embed inlined drawing) (.ok (), drawing) :=
      events_of_definitions embed [] hnone hinside hkinds hdepth (.refl hroot)
    exact hquiet.trans (use_of_inert hroot (openElement_use_of_definitions huse hnone hinside _ _))

end Draw

end SvgPage
