import SvgPage.Proofs.Element.Merge
import SvgPage.Proofs.Traversal.Captures
import SvgPage.Proofs.Traversal.Expansion

namespace SvgPage

open Document

variable {α : Type} {setting : Setting α}

namespace Document

/-- Recording a tag leaves the definitions of other ids as they are. -/
theorem Records.get?_definitions {document result : Document α} {name id : String} {attributes : Attributes}
    {recorded defines : Bool} (h : Records document name attributes result recorded defines)
    (hid : attributes.get? "id" ≠ some id) : result.definitions.get? id = document.definitions.get? id := by
  cases h with
  | own leadingText hreplay hown =>
    have hne : id ≠ _ := fun hsame => hid (hown.trans (congrArg some hsame.symm))
    exact (Table.get?_set ..).trans (if_neg hne)
  | _ => rfl

/-- While uses are expanded, no characters are no change. -/
theorem addText_empty_of_replay {document : Document α} (h : 0 < document.replayDepth) :
    document.addText "" = document := by
  have hreplay : (document.replayDepth == 0) = false := beq_eq_false_iff_ne.2 (Nat.ne_of_gt h)
  simp only [addText, hreplay, Bool.and_false, Bool.false_and, Bool.false_eq_true, if_false]
  split
  next state _ hstate _ =>
    rw [String.append_empty, ← hstate]
  · rfl

variable [Scalar α]

/-- An image or a use that refers to nothing is left out. -/
theorem openElement_of_unlinked (setting : Setting α) {document : Document α} (hdrawing : document.isDrawing = true)
    {kind : ElementKind} (hkind : kind = .image ∨ kind = .use) {attributes : Attributes}
    (hhref : attributes.href? = none) (ledger : Ledger α) :
    ∃ notices, document.openElement setting kind attributes ledger =
      ((document, .inert), { ledger with notices }) := by
  rw [isDrawing, Bool.and_eq_true, beq_iff_eq, Option.isNone_iff_eq_none] at hdrawing
  obtain ⟨hdefinitions, hclip⟩ := hdrawing
  obtain rfl | rfl := hkind
  · refine ⟨ledger.notices, ?_⟩
    simp only [openElement, hclip, hdefinitions, Nat.lt_irrefl, if_false, openDrawn, openImage, hhref]
    rfl
  · refine ⟨ledger.notices.push (.unresolvedUse none), ?_⟩
    have hfound : document.findUse? attributes = none := by
      rw [findUse?, hhref]
      rfl
    simp only [openElement, hclip, hdefinitions, Nat.lt_irrefl, if_false, openDrawn, openUse, hfound, hhref]
    rfl

/-- The start tag of a `use` whose reference can be followed, with what it comes to. -/
theorem beginTag_of_found {document : Document α} (hdrawing : document.isDrawing = true)
    {use id name : String} {attributes own : Attributes} {leadingText : String} {rest : List DefinitionEvent}
    (huse : ElementKind.ofName use = .use)
    (hfound : document.findUse? attributes = some (id, .complete (.startTag name own leadingText :: rest)))
    (hid : attributes.get? "id" ≠ some id) (hexpanding : id ∉ document.expanding)
    (hlimit : setting.options.nesting.isReached document.expanding.length = false) (ledger : Ledger α) :
    let recorded := document.recordStart use attributes .use
    let merged := Use.merge α name own attributes
    document.beginTag setting use attributes ledger =
      ((recorded.1, ⟨.expansion id (.startTag merged.1 merged.2 "" :: rest), recorded.2.1, recorded.2.2⟩),
        ledger) := by
  intro recorded merged
  have hrecords : Records document use attributes recorded.1 recorded.2.1 recorded.2.2 :=
    recordStart_records document use attributes .use
  obtain ⟨hdefinitions, hclip⟩ := hrecords.mode_eq
  have hexpandings : recorded.1.expanding = document.expanding :=
    congrArg Standing.expanding hrecords.standing_eq
  rw [isDrawing, Bool.and_eq_true, beq_iff_eq, Option.isNone_iff_eq_none] at hdrawing
  have hstill : recorded.1.findUse? attributes =
      some (id, .complete (.startTag name own leadingText :: rest)) := by
    obtain ⟨linked, hlinked, hdefined⟩ := Option.bind_eq_some_iff.1 hfound
    obtain ⟨definition, hdefinition, hpair⟩ := Option.bind_eq_some_iff.1 hdefined
    cases hpair
    rw [findUse?, hlinked]
    change (recorded.1.definitions.get? id >>= fun definition => some (id, definition)) = _
    rw [hrecords.get?_definitions hid, hdefinition]
    rfl
  have hopened : recorded.1.openElement setting .use attributes ledger = _ :=
    openElement_use (.inr (hdefinitions.trans hdrawing.1)) attributes ledger
  rw [openUse_of_found hstill (hexpandings ▸ hexpanding) (hexpandings ▸ hlimit)] at hopened
  simp only [beginTag, huse, bind_apply, pure_apply]
  rw [hopened]

end Document

namespace Draw

variable [Scalar α]

section Unlinked

variable (setting : Setting α) (embed : Option (Embedding α)) {drawing : Drawing α}

/-- In an expansion, the start tag of an image or a use that refers to nothing does nothing. -/
theorem startTag_of_unlinked (hroot : drawing.document.rootSeen = true)
    (hdrawing : drawing.document.isDrawing = true) (hreplay : 0 < drawing.document.replayDepth)
    {name : String} (hname : ElementKind.ofName name = .image ∨ ElementKind.ofName name = .use)
    {attributes : Attributes} (hhref : attributes.href? = none) (levels : Nat) :
    ∃ notices, startTag setting embed levels name attributes drawing =
      (.ok (), { drawing with
        document := drawing.document.push ⟨.nothing, false, false⟩
        ledger := { drawing.ledger with notices } }) := by
  obtain ⟨notices, hopened⟩ := openElement_of_unlinked setting hdrawing hname hhref drawing.ledger
  have hbegun : drawing.document.beginTag setting name attributes drawing.ledger =
      ((drawing.document, ⟨.inert, false, false⟩), { drawing.ledger with notices }) := by
    simp only [beginTag, recordStart_of_replaying hreplay, bind_apply, pure_apply, hopened]
  refine ⟨notices, ?_⟩
  rw [startTag_of_element embed levels hroot (congrArg (·.1.2.opening) hbegun), hbegun]

/-- So an expansion that begins with such a tag goes on with the tags behind it. -/
theorem whileExpanding_of_unlinked (hroot : drawing.document.rootSeen = true)
    (hdrawing : drawing.document.isDrawing = true) (id : String) {name : String}
    (hname : ElementKind.ofName name = .image ∨ ElementKind.ofName name = .use) {attributes : Attributes}
    (hhref : attributes.href? = none) (levels : Nat) (rest : List DefinitionEvent) :
    ∃ notices,
      whileExpanding id
          (replay setting (startTag setting embed levels) (.startTag name attributes "" :: rest)) drawing =
        whileExpanding id (replay setting (startTag setting embed levels) rest)
          { drawing with
            document := drawing.document.push ⟨.nothing, false, false⟩
            ledger := { drawing.ledger with notices } } := by
  let begun : Drawing α := { drawing with document := drawing.document.beginExpansion id }
  have hreplay : 0 < begun.document.replayDepth := Nat.succ_pos _
  have hroot : begun.document.rootSeen = true := hroot
  obtain ⟨notices, hstarted⟩ :=
    startTag_of_unlinked setting embed hroot hdrawing hreplay hname hhref levels
  let started : Drawing α :=
    { begun with
      document := begun.document.push ⟨.nothing, false, false⟩
      ledger := { begun.ledger with notices } }
  have hread : characters "" begun = (.ok (), begun) := by
    have hsame := addText_empty_of_replay hreplay
    change (Except.ok (), { begun with document := begun.document.addText "" }) = _
    rw [hsame]
  refine ⟨notices, ?_⟩
  have hreplayed : replay setting (startTag setting embed levels) (.startTag name attributes "" :: rest) begun =
      replay setting (startTag setting embed levels) rest started := by
    rw [replay, bind_ok hread, bind_ok hstarted]
  simp only [whileExpanding]
  rw [hreplayed]
  rfl

end Unlinked

/-- An expansion in which only an element that does nothing is left to be closed does nothing. -/
theorem whileExpanding_endTag (setting : Setting α) (drawing : Drawing α) (id last : String) (start : StartHandler α) :
    whileExpanding id (replay setting start [.endTag last ""])
        { drawing with document := drawing.document.push ⟨.nothing, false, false⟩ } =
      (.ok (), { drawing with document := (drawing.document.beginExpansion id).endExpansion id }) := by
  let begun : Drawing α :=
    { drawing with document := (drawing.document.push ⟨.nothing, false, false⟩).beginExpansion id }
  have hread : characters "" begun = (.ok (), begun) := by
    have hsame : begun.document.addText "" = begun.document := addText_empty_of_replay (Nat.succ_pos _)
    change (Except.ok (), { begun with document := begun.document.addText "" }) = _
    rw [hsame]
  have hended : endTag setting last begun =
      (.ok (), { drawing with document := drawing.document.beginExpansion id }) := by
    have hpushed : begun.document.openElements =
        ⟨.nothing, false, false⟩ :: drawing.document.openElements := rfl
    rw [endTag_cons setting last hpushed]
    rfl
  have hreplayed : replay setting start [.endTag last ""] begun =
      (.ok (), { drawing with document := drawing.document.beginExpansion id }) := by
    rw [replay, bind_ok hread, bind_ok hended]
    rfl
  simp only [whileExpanding]
  rw [hreplayed]

end Draw

namespace Stage

variable [Scalar α] {embed : Option (Embedding α)} {stage : Stage α}

/-- A `use` of an image or of another `use` does not follow the reference of that element: its expansion
    goes on with the content of the element, and draws nothing where there is none. -/
theorem expands_content_of_reached {events : List MarkupEvent} {use id name leadingText : String}
    {attributes own : Attributes} {rest : List DefinitionEvent} (hreached : Reached setting embed events stage)
    (hroot : stage.document.rootSeen = true) (hdrawing : stage.document.isDrawing = true)
    (huse : ElementKind.ofName use = .use)
    (hfound : stage.document.findUse? attributes =
      some (id, .complete (.startTag name own leadingText :: rest)))
    (hname : ElementKind.ofName name = .image ∨ ElementKind.ofName name = .use)
    (hid : attributes.get? "id" ≠ some id) (hexpanding : id ∉ stage.document.expanding)
    (hlimit : setting.options.nesting.isReached stage.document.expanding.length = false) :
    let recorded := stage.document.recordStart use attributes .use
    let used := Draw.event setting embed (.startTag use attributes) stage.drawing
    (∃ levels notices, used =
      (Draw.whileExpanding id (Draw.replay setting (Draw.startTag setting embed levels) rest) >>= fun _ =>
        Draw.change (·.push ⟨.nothing, recorded.2.1, recorded.2.2⟩))
        { stage.drawing with
          document := recorded.1.push ⟨.nothing, false, false⟩
          ledger := { stage.drawing.ledger with notices } }) ∧
      ∀ last, rest = [.endTag last ""] → used.1 = .ok () ∧ stage.drawing.Withholds used.2 := by
  intro recorded used
  have hrecords : Records stage.document use attributes recorded.1 recorded.2.1 recorded.2.2 :=
    recordStart_records stage.document use attributes .use
  obtain ⟨hdefinitions, hclip⟩ := hrecords.mode_eq
  have hbegun := beginTag_of_found hdrawing huse hfound hid hexpanding hlimit stage.drawing.ledger
  have hmerged : (Use.merge α name own attributes).1 = name := by
    apply Use.name_merge
    obtain himage | hagain := hname
    · rw [himage]
      decide
    · rw [hagain]
      decide
  obtain ⟨levels, hlevels⟩ := Draw.useLevels_pos hreached.counts.2 hlimit
  let opened : Drawing α := { stage.drawing with document := recorded.1 }
  have hseen : opened.document.rootSeen = true :=
    (congrArg Standing.rootSeen hrecords.standing_eq).trans hroot
  have hmode : opened.document.isDrawing = true := by
    change recorded.1.isDrawing = true
    rwa [isDrawing, hdefinitions, hclip]
  have hused : used =
      (Draw.whileExpanding id (Draw.replay setting (Draw.startTag setting embed levels)
          (.startTag name (Use.merge α name own attributes).2 "" :: rest)) >>= fun _ =>
        Draw.change (·.push ⟨.nothing, recorded.2.1, recorded.2.2⟩)) opened := by
    have hevent : used =
        Draw.startTagWith setting embed (some (Draw.startTag setting embed levels)) use attributes
          stage.drawing := by
      change Draw.startTag setting embed (Draw.useLevels setting stage.document) use attributes _ = _
      rw [hlevels, Draw.startTag]
    rw [hevent, Draw.startTagWith_apply setting embed _ use attributes hroot]
    have hbegun' : stage.drawing.document.beginTag setting use attributes stage.drawing.ledger = _ := hbegun
    rw [hbegun', hmerged]
    simp only [Draw.carryOut, bind_assoc, pure_bind]
    rfl
  obtain ⟨notices, hexpanded⟩ := Draw.whileExpanding_of_unlinked setting embed hseen hmode id hname
    (Use.href?_merge (α := α) name own attributes) levels rest
  rw [Draw.bind_congr_apply hexpanded] at hused
  refine ⟨⟨levels, notices, hused⟩, ?_⟩
  rintro last rfl
  let left : Drawing α := { opened with ledger := { opened.ledger with notices } }
  have hempty := Draw.whileExpanding_endTag setting left id last (Draw.startTag setting embed levels)
  rw [hused.trans (Draw.bind_ok hempty _)]
  exact ⟨rfl, ⟨hrecords.withholds.output, hrecords.withholds.frame, hrecords.withholds.text⟩, rfl, rfl⟩

/-- Nothing is drawn for a use of a use of a rectangle. -/
theorem expands_content_of_use :
    let drawing := (Draw.events Exact.setting none Exact.linking (.initial Exact.setting {})).2
    let used := Draw.event Exact.setting none Exact.linked drawing
    Reached Exact.setting none (Exact.linking ++ [Exact.linked]) ⟨drawing, [], [Exact.linked]⟩ ∧
      drawing.document.findUse? ⟨[("href", "#u")]⟩ =
        some ("u", .complete [.startTag "use" ⟨[("id", "u"), ("href", "#r")]⟩ "", .endTag "use" ""]) ∧
      used.1 = .ok () ∧ drawing.Withholds used.2 := by
  intro drawing used
  have hdrawn : (Draw.events Exact.setting none Exact.linking (.initial Exact.setting {})).1.isOk = true := by
    decide +kernel
  have hfound : drawing.document.findUse? ⟨[("href", "#u")]⟩ =
      some ("u", .complete [.startTag "use" ⟨[("id", "u"), ("href", "#r")]⟩ "", .endTag "use" ""]) := by
    decide +kernel
  have hreached : Reached Exact.setting none (Exact.linking ++ [Exact.linked]) ⟨drawing, [], [Exact.linked]⟩ :=
    .of_events (Draw.eq_ok hdrawn)
  exact ⟨hreached, hfound, (expands_content_of_reached hreached (by decide +kernel) (by decide +kernel) (by decide)
    hfound (.inr (by decide)) (by decide) (by decide +kernel) (by decide +kernel)).2 "use" rfl⟩

/-- The rectangle is complete, and a use of it draws it, but not a use of the use that refers to it. -/
theorem expands_content_not_reference :
    let drawing := (Draw.events Exact.setting none Exact.linking (.initial Exact.setting {})).2
    drawing.document.findUse? ⟨[("id", "u"), ("href", "#r")]⟩ = some ("r", .complete Exact.defined) ∧
      (Draw.event Exact.setting none Exact.use drawing).2.document.output.size >
        drawing.document.output.size ∧
      (Draw.event Exact.setting none Exact.linked drawing).2.document.output.size =
        drawing.document.output.size := by
  decide +kernel

end Stage

end SvgPage
