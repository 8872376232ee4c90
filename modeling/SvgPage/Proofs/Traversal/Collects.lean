import SvgPage.Proofs.Traversal.Expansion
import SvgPage.Proofs.Traversal.Lineages

namespace SvgPage

open MarkupEvent (aroundAfter lineages)

variable {α : Type} [Scalar α]

namespace ClipShape

/-- The shape that an element of a clip path comes to, if it has a path, from the size that percentages refer
    to, the style of its parent and the map that holds in the element. -/
def ofElement? (setting : Setting α) (viewport : Size α) (parent : Style α) (matrix : Matrix α) (tag : StartTag) :
    Option (ClipShape α) :=
  match tag.kind with
  | .shape kind =>
    let style := parent.resolve tag.attributes setting.options.dpi
    let context : ShapeContext α := ⟨viewport, style.lengthContext setting.options.dpi, setting.options.minLength⟩
    (context.path? tag.attributes kind).map fun path => ⟨path, matrix, style.text .clipRule == "evenodd"⟩
  | _ => none

/-- The shape that the innermost of elements inside each other comes to in a clip path. Its style is handed
    down by the frame around the clip path, and its map is the product of those of all elements after that of
    the clip path. -/
def ofLineage? (setting : Setting α) (frame : Frame α) (base : Matrix α) : List StartTag → Option (ClipShape α)
  | [] => none
  | tag :: around =>
    ofElement? setting frame.viewport frame.style (StartTag.product base (tag :: around)) tag

/-- Shapes are moved by their maps. -/
theorem ofLineage?_of_still {tag : StartTag} (hmoves : tag.movesContent = false) (setting : Setting α)
    (frame : Frame α) (base : Matrix α) (around : List StartTag) :
    ofLineage? setting frame base (tag :: around) = none := by
  rw [ofLineage?, ofElement?]
  split
  next kind hkind =>
    rw [StartTag.movesContent, hkind] at hmoves
    cases hmoves
  · rfl

end ClipShape

namespace Document

/-- What is on the stack for an element of a clip path, which gives back the map around it. -/
def clipElement (base : Matrix α) (tag : StartTag) (around : List StartTag) : OpenElement α :=
  ⟨if tag.movesContent then .clipElement (StartTag.product base around) else .nothing, false, false⟩

def clipElements (base : Matrix α) : List StartTag → List (OpenElement α)
  | [] => []
  | tag :: around => clipElement base tag around :: clipElements base around

/-- A document inside a clip path, since whose start elements have been opened around the place that has been
    reached, and shapes have been collected. -/
def collecting (start : Document α) (id : String) (base : Matrix α) (around : List StartTag)
    (shapes : List (ClipShape α)) : Document α :=
  { start with
    clip := some ⟨id, StartTag.product base around⟩
    openElements := clipElements base around ++ start.openElements
    clipPaths := start.clipPaths.modify id (· ++ shapes) }

section Clip

variable {document : Document α} (h : document.clip.isSome = true)

include h

omit [Scalar α] in
theorem recordStart_of_clip (name : String) (attributes : Attributes) (kind : ElementKind) :
    document.recordStart name attributes kind = (document, false, false) := by
  rw [recordStart, h, Bool.or_true, Bool.true_or, if_pos rfl]

theorem beginTag_of_clip (setting : Setting α) (name : String) (attributes : Attributes) (ledger : Ledger α) :
    let opened := document.openElement setting (.ofName name) attributes ledger
    document.beginTag setting name attributes ledger = ((opened.1.1, ⟨opened.1.2, false, false⟩), opened.2) := by
  rw [beginTag, recordStart_of_clip h]
  rfl

omit [Scalar α] in
/-- Characters in a clip path count for nothing. -/
theorem addText_of_clip (text : String) : document.addText text = document := by
  have hmode : document.isDrawing = false := by
    rw [isDrawing, Option.isNone_eq_false_iff.2 h, Bool.and_false]
  rw [addText, Option.isNone_eq_false_iff.2 h, Bool.and_false, hmode]
  cases document.text <;> rfl

end Clip

variable (setting : Setting α) (start : Document α) (id : String) (base : Matrix α) (around : List StartTag)
  (shapes : List (ClipShape α))

/-- An element that does nothing in a clip path. -/
theorem push_nothing {tag : StartTag} (hmoves : tag.movesContent = false) :
    (start.collecting id base around shapes).push ⟨.nothing, false, false⟩ =
      start.collecting id base (tag :: around) shapes := by
  rw [collecting, collecting, clipElements, clipElement, if_neg (Bool.eq_false_iff.1 hmoves),
    StartTag.product_cons_of_still hmoves]
  rfl

/-- An element adds its shape to those that have been collected, if it comes to one. -/
theorem openClipElement_eq (document : Document α) (clip : ClipCapture α) (tag : StartTag) :
    let matrix := clip.matrix.multiply tag.attributes.transform
    let shape? := ClipShape.ofElement? setting document.frame.viewport document.frame.style matrix tag
    document.openClipElement setting clip tag.kind tag.attributes =
      ({ document with
          clipPaths := document.clipPaths.modify clip.id (· ++ shape?.toList)
          clip := some { clip with matrix } },
        .clipElement clip.matrix) := by
  intro matrix shape?
  have hnone : document.clipPaths.modify clip.id (· ++ []) = document.clipPaths := by
    simp only [List.append_nil, Table.modify_id]
  simp only [shape?, ClipShape.ofElement?, openClipElement]
  cases tag.kind with
  | shape kind =>
    simp only [shapeContext]
    generalize (⟨document.frame.viewport, _, _⟩ : ShapeContext α).path? tag.attributes kind = path?
    cases path? with
    | none =>
      simp only [Option.map_none, Option.toList_none, hnone]
      rfl
    | some path => rfl
  | _ =>
    simp only [Option.toList_none, hnone]
    rfl

theorem openClipElement_collecting {tag : StartTag} (hmoves : tag.movesContent = true) :
    let clip : ClipCapture α := ⟨id, StartTag.product base around⟩
    let opened := (start.collecting id base around shapes).openClipElement setting clip tag.kind tag.attributes
    opened.1.push ⟨opened.2, false, false⟩ =
      start.collecting id base (tag :: around)
        (shapes ++ (ClipShape.ofLineage? setting start.frame base (tag :: around)).toList) := by
  have hproduct := StartTag.product_cons_of_moves hmoves base around
  simp only [openClipElement_eq, collecting, push, clipElements, clipElement, hmoves, hproduct, ClipShape.ofLineage?,
    Table.modify_modify, List.append_assoc, if_true, List.cons_append]

/-- An element other than a `use` is part of the clip path, or does nothing there. -/
theorem openElement_collecting {tag : StartTag} (hname : tag.kind ≠ .use) (ledger : Ledger α) :
    ∃ document closing,
      (start.collecting id base around shapes).openElement setting tag.kind tag.attributes ledger =
          ((document, .element closing), ledger) ∧
        document.push ⟨closing, false, false⟩ = start.collecting id base (tag :: around)
          (shapes ++ (ClipShape.ofLineage? setting start.frame base (tag :: around)).toList) := by
  cases hmoves : tag.movesContent with
  | false =>
    refine ⟨start.collecting id base around shapes, .nothing, ?_, ?_⟩
    · rw [StartTag.movesContent] at hmoves
      cases hkind : tag.kind with
      | gradient | stop | clipPath => rfl
      | use => exact absurd hkind hname
      | _ =>
        rw [hkind] at hmoves
        cases hmoves
    · rw [ClipShape.ofLineage?_of_still hmoves, Option.toList_none, List.append_nil]
      exact start.push_nothing id base around shapes hmoves
  | true =>
    refine ⟨_, _, ?_, start.openClipElement_collecting setting id base around shapes hmoves⟩
    rw [StartTag.movesContent] at hmoves
    cases hkind : tag.kind with
    | gradient | stop | clipPath | use =>
      rw [hkind] at hmoves
      cases hmoves
    | _ => rfl

/-- The end tag of an element gives back the map around it. -/
theorem endElement_collecting (tag : StartTag) (name : String) (ledger : Ledger α) :
    let popped := { start.collecting id base (tag :: around) shapes with
      openElements := clipElements base around ++ start.openElements }
    popped.endElement setting (clipElement base tag around) name ledger =
      (start.collecting id base around shapes, ledger) := by
  intro popped
  cases hmoves : tag.movesContent with
  | false =>
    simp only [popped, clipElement, hmoves, Bool.false_eq_true, if_false, collecting,
      StartTag.product_cons_of_still hmoves]
    rfl
  | true =>
    simp only [popped, clipElement, hmoves, if_true]
    rfl

omit [Scalar α] in
theorem endExpansion_beginExpansion (document : Document α) (id : String) :
    (document.beginExpansion id).endExpansion id = document := by
  rw [endExpansion, beginExpansion, List.erase_cons_head]
  rfl

theorem endExpansion_collecting (expanded : String) :
    ((start.beginExpansion expanded).collecting id base around shapes).endExpansion expanded =
      start.collecting id base around shapes :=
  endExpansion_beginExpansion (start.collecting id base around shapes) expanded

end Document

namespace Draw

/-- An action handles events inside a clip path: it collects the shape of each element that begins, and leaves
    open those that do not end. -/
def Collects (setting : Setting α) (start : Document α) (id : String) (base : Matrix α)
    (events : List MarkupEvent) (action : Draw α Unit) : Prop :=
  ∀ (drawing : Drawing α) (around : List StartTag) (shapes : List (ClipShape α)),
    drawing.document = start.collecting id base around shapes →
    (Tag.depthAfter around.length (MarkupEvent.tags events)).isSome = true →
    ∃ ledger, action drawing = (.ok (),
      { drawing with
        ledger
        document := start.collecting id base (aroundAfter around events)
          (shapes ++ (lineages around events).filterMap (ClipShape.ofLineage? setting start.frame base)) })

/-- Nothing is recorded in a clip path. -/
theorem startTagWith_of_clip {drawing : Drawing α} (setting : Setting α) (embed : Option (Embedding α))
    (handler : Option (StartHandler α)) (tag : StartTag) (hroot : drawing.document.rootSeen = true)
    (hclip : drawing.document.clip.isSome = true) :
    let opened := drawing.document.openElement setting tag.kind tag.attributes drawing.ledger
    startTagWith setting embed handler tag.name tag.attributes drawing =
      (carryOut setting embed handler opened.1.2 >>= fun closing => change (·.push ⟨closing, false, false⟩))
        { drawing with document := opened.1.1, ledger := opened.2 } := by
  rw [startTagWith_apply setting embed handler tag.name tag.attributes hroot, Document.beginTag_of_clip hclip]
  rfl

namespace Collects

variable {setting : Setting α} {start : Document α} {id : String} {base : Matrix α}
  {events rest : List MarkupEvent} {action next : Draw α Unit}

theorem nil : Collects setting start id base [] (return ()) := by
  intro drawing around shapes hdocument hdepth
  refine ⟨drawing.ledger, ?_⟩
  rw [aroundAfter, lineages, List.filterMap_nil, List.append_nil, ← hdocument]
  rfl

theorem bind (haction : Collects setting start id base events action)
    (hnext : Collects setting start id base rest next) :
    Collects setting start id base (events ++ rest) (action >>= fun _ => next) := by
  intro drawing around shapes hdocument hdepth
  rw [MarkupEvent.tags_append, Tag.depthAfter_append] at hdepth
  obtain ⟨last, hlast⟩ := Option.isSome_iff_exists.1 hdepth
  obtain ⟨depth, hfirst, hsecond⟩ := Option.bind_eq_some_iff.1 hlast
  obtain ⟨ledger, hresult⟩ := haction drawing around shapes hdocument (Option.isSome_of_eq_some hfirst)
  rw [← MarkupEvent.length_aroundAfter hfirst] at hsecond
  obtain ⟨final, hfinal⟩ := hnext
    { drawing with ledger, document := start.collecting id base (aroundAfter around events) _ } _ _ rfl
    (Option.isSome_of_eq_some hsecond)
  refine ⟨final, ?_⟩
  rw [bind_ok hresult, hfinal, MarkupEvent.aroundAfter_append, MarkupEvent.lineages_append,
    List.filterMap_append, List.append_assoc]

/-- Characters are passed over. -/
theorem characters (text : String) : Collects setting start id base [] (Draw.characters text) := by
  intro drawing around shapes hdocument hdepth
  refine ⟨drawing.ledger, ?_⟩
  have hsame : drawing.document.addText text = drawing.document :=
    Document.addText_of_clip (hdocument ▸ rfl) text
  rw [aroundAfter, lineages, List.filterMap_nil, List.append_nil, ← hdocument]
  change (_, { drawing with document := drawing.document.addText text }) = _
  rw [hsame]

/-- An end tag closes the innermost element of the clip path. -/
theorem endTag (name : String) : Collects setting start id base [.endTag name] (Draw.endTag setting name) := by
  intro drawing around shapes hdocument hdepth
  cases around with
  | nil => cases hdepth
  | cons tag around =>
    have helements : drawing.document.openElements =
        Document.clipElement base tag around :: (Document.clipElements base around ++ start.openElements) :=
      hdocument ▸ rfl
    refine ⟨drawing.ledger, ?_⟩
    rw [endTag_cons setting name helements, hdocument, Document.endElement_collecting]
    simp only [aroundAfter, lineages, List.filterMap_nil, List.append_nil, List.tail_cons]

theorem filterMap_lineages_startTag (tag : StartTag) (around : List StartTag) :
    (lineages around [.startTag tag.name tag.attributes]).filterMap (ClipShape.ofLineage? setting start.frame base) =
      (ClipShape.ofLineage? setting start.frame base (tag :: around)).toList := by
  rw [lineages, lineages, List.filterMap_cons, List.filterMap_nil]
  cases ClipShape.ofLineage? setting start.frame base (tag :: around) <;> rfl

/-- The element of a start tag is open, and its shape has been collected. -/
theorem startTagWith_of_ne_use (tag : StartTag) (hroot : start.rootSeen = true) (hname : tag.kind ≠ .use)
    (embed : Option (Embedding α)) (handler : Option (StartHandler α)) :
    Collects setting start id base [.startTag tag.name tag.attributes]
      (Draw.startTagWith setting embed handler tag.name tag.attributes) := by
  intro drawing around shapes hdocument hdepth
  obtain ⟨document, closing, hopened, hpushed⟩ :=
    start.openElement_collecting setting id base around shapes hname drawing.ledger
  refine ⟨drawing.ledger, ?_⟩
  rw [startTagWith_of_clip setting embed handler tag (hdocument ▸ hroot) (hdocument ▸ rfl), hdocument, hopened,
    filterMap_lineages_startTag, aroundAfter, aroundAfter, ← hpushed]
  rfl

/-- The element of a `use` is open, and does nothing. -/
theorem push_use {tag : StartTag} (hname : tag.kind = .use) :
    Collects setting start id base [.startTag tag.name tag.attributes]
      (change (·.push ⟨.nothing, false, false⟩)) := by
  intro drawing around shapes hdocument hdepth
  have hmoves : tag.movesContent = false := by
    rw [StartTag.movesContent, hname]
  have hpushed := start.push_nothing id base around shapes hmoves
  rw [← hdocument] at hpushed
  refine ⟨drawing.ledger, ?_⟩
  rw [filterMap_lineages_startTag, ClipShape.ofLineage?_of_still hmoves, Option.toList_none, List.append_nil,
    aroundAfter, aroundAfter, ← hpushed]
  rfl

/-- Shapes that are collected in an expansion are collected around it. -/
theorem whileExpanding {expanded : String}
    (h : Collects setting (start.beginExpansion expanded) id base events action) :
    Collects setting start id base events (Draw.whileExpanding expanded action) := by
  intro drawing around shapes hdocument hdepth
  obtain ⟨ledger, hresult⟩ := h { drawing with document := drawing.document.beginExpansion expanded } around shapes
    (hdocument ▸ rfl) hdepth
  refine ⟨ledger, ?_⟩
  rw [Draw.whileExpanding, hresult]
  simp only [Document.endExpansion_collecting]
  rfl

theorem startTagWith_use {tag : StartTag} {drawing : Drawing α} {around : List StartTag}
    {shapes : List (ClipShape α)} (hdocument : drawing.document = start.collecting id base around shapes)
    (hroot : start.rootSeen = true) (hname : tag.kind = .use) (embed : Option (Embedding α))
    (handler : Option (StartHandler α)) :
    ∃ ledger, Draw.startTagWith setting embed handler tag.name tag.attributes drawing =
      (carryOut setting embed handler (.ofStandIn (start.standIn? setting tag.attributes)) >>= fun closing =>
        change (·.push ⟨closing, false, false⟩)) { drawing with ledger } := by
  have hclip : drawing.document.clip.isSome = true := hdocument ▸ rfl
  have hmode : drawing.document.clip ≠ none := Option.isSome_iff_ne_none.1 hclip
  have hsame : drawing.document.standIn? setting tag.attributes = start.standIn? setting tag.attributes :=
    hdocument ▸ rfl
  refine ⟨(drawing.document.openUse setting tag.attributes drawing.ledger).2, ?_⟩
  rw [startTagWith_of_clip setting embed handler tag (hdocument ▸ hroot) hclip, hname,
    Document.openElement_use (.inl hmode), Document.openUse_result, hsame]

/-- A `use` that stands for nothing is left out. -/
theorem startTagWith_leftOut (tag : StartTag) (hroot : start.rootSeen = true) (hname : tag.kind = .use)
    (hnone : start.standIn? setting tag.attributes = none) (embed : Option (Embedding α))
    (handler : Option (StartHandler α)) :
    Collects setting start id base [.startTag tag.name tag.attributes]
      (Draw.startTagWith setting embed handler tag.name tag.attributes) := by
  intro drawing around shapes hdocument hdepth
  obtain ⟨ledger, hstart⟩ := startTagWith_use hdocument hroot hname embed handler
  rw [hstart, hnone]
  exact push_use hname { drawing with ledger } around shapes hdocument hdepth

/-- What stands for a `use` is handled before the `use` is open. -/
theorem startTagWith_expanded (tag : StartTag) {content : List MarkupEvent} {tags : List DefinitionEvent}
    {expanded : String} {handler : StartHandler α} (hroot : start.rootSeen = true) (hname : tag.kind = .use)
    (hsome : start.standIn? setting tag.attributes = some (expanded, tags)) (embed : Option (Embedding α))
    (hcontent : Collects setting (start.beginExpansion expanded) id base content (replay setting handler tags)) :
    Collects setting start id base (content ++ [.startTag tag.name tag.attributes])
      (Draw.startTagWith setting embed (some handler) tag.name tag.attributes) := by
  intro drawing around shapes hdocument hdepth
  obtain ⟨ledger, hstart⟩ := startTagWith_use hdocument hroot hname embed (some handler)
  have hboth := hcontent.whileExpanding.bind (push_use hname)
  rw [hstart, hsome]
  simp only [Opening.ofStandIn, carryOut, bind_assoc, pure_bind]
  exact hboth { drawing with ledger } around shapes hdocument hdepth

end Collects

/-- An action collects the shapes of what events unfold to. -/
def Gathers (setting : Setting α) (start : Document α) (id : String) (base : Matrix α)
    (events : List MarkupEvent) (action : Draw α Unit) : Prop :=
  ∃ unfolded, Unfolds setting start events unfolded ∧ Collects setting start id base unfolded action

section Gathers

variable {setting : Setting α} {embed : Option (Embedding α)} {start : Document α} {id : String}
  {base : Matrix α} {events rest : List MarkupEvent} {action next : Draw α Unit}

theorem Gathers.bind (haction : Gathers setting start id base events action)
    (hnext : Gathers setting start id base rest next) :
    Gathers setting start id base (events ++ rest) (action >>= fun _ => next) := by
  obtain ⟨unfolded, hunfolds, hcollects⟩ := haction
  obtain ⟨more, hmore, hcollected⟩ := hnext
  exact ⟨unfolded ++ more, hunfolds.append hmore, hcollects.bind hcollected⟩

theorem Gathers.characters (text : String) : Gathers setting start id base [] (Draw.characters text) :=
  ⟨[], .nil, .characters text⟩

theorem Gathers.endTag (name : String) : Gathers setting start id base [.endTag name] (Draw.endTag setting name) :=
  ⟨_, .keep rfl .nil, .endTag name⟩

/-- Recorded tags do what their events do. -/
theorem replay_gathers {handler : StartHandler α}
    (hstart : ∀ name attributes, Gathers setting start id base [.startTag name attributes] (handler name attributes))
    (tags : List DefinitionEvent) :
    Gathers setting start id base (tags.map DefinitionEvent.event) (replay setting handler tags) := by
  induction tags with
  | nil => exact ⟨[], .nil, .nil⟩
  | cons tag rest ih =>
    cases tag with
    | startTag name attributes text => exact (Gathers.characters text).bind ((hstart name attributes).bind ih)
    | endTag name text => exact (Gathers.characters text).bind ((Gathers.endTag name).bind ih)

/-- A start tag is handled if what may stand for it is. -/
theorem startTagWith_gathers {name : String} {attributes : Attributes} {handler : Option (StartHandler α)}
    (hroot : start.rootSeen = true)
    (hexpands : ∀ expanded tags, start.standIn? setting attributes = some (expanded, tags) →
      ∃ inner, handler = some inner ∧
        Gathers setting (start.beginExpansion expanded) id base (tags.map DefinitionEvent.event)
          (replay setting inner tags)) :
    Gathers setting start id base [.startTag name attributes]
      (startTagWith setting embed handler name attributes) := by
  by_cases hname : ElementKind.ofName name = .use
  · have hevent : MarkupEvent.standIn? setting start (.startTag name attributes) = start.standIn? setting attributes :=
      if_pos hname
    cases hstand : start.standIn? setting attributes with
    | none =>
      exact ⟨_, .keep (hevent.trans hstand) .nil,
        Collects.startTagWith_leftOut ⟨name, attributes⟩ hroot hname hstand embed handler⟩
    | some standIn =>
      obtain ⟨expanded, tags⟩ := standIn
      obtain ⟨inner, rfl, content, hunfolds, hcollects⟩ := hexpands expanded tags hstand
      exact ⟨_, .expand (hevent.trans hstand) hunfolds .nil,
        Collects.startTagWith_expanded ⟨name, attributes⟩ hroot hname hstand embed hcollects⟩
  · exact ⟨_, .keep (if_neg hname) .nil,
      Collects.startTagWith_of_ne_use ⟨name, attributes⟩ hroot hname embed handler⟩

/-- A `use` that stands for something needs a level for it. -/
theorem neededLevels_standIn {attributes : Attributes} {expanded : String} {tags : List DefinitionEvent}
    (hregistered : start.Registered) (h : start.standIn? setting attributes = some (expanded, tags)) :
    (start.beginExpansion expanded).Registered ∧
      neededLevels setting (start.beginExpansion expanded) + 1 ≤ neededLevels setting start := by
  obtain ⟨hfree, hlimit, defined, hdefined, -⟩ := Document.standIn?_eq_some h
  have hname : expanded ∈ start.definitions.names := Table.mem_names_iff.2 (Option.isSome_of_eq_some hdefined)
  have hrecords : Document.Records start "" ⟨[]⟩ start false false := .unrecorded
  exact ⟨hregistered.beginExpansion hfree hname,
    neededLevels_beginExpansion hregistered hrecords hfree hname hlimit⟩

/-- A start tag is handled where there are as many levels as what stands for it needs. Each expansion takes one of
    them, inside which the shapes are collected as from a document of its own. -/
theorem startTag_gathers (levels : Nat) (hroot : start.rootSeen = true) (hregistered : start.Registered)
    (hlevels : neededLevels setting start ≤ levels) (name : String) (attributes : Attributes) :
    Gathers setting start id base [.startTag name attributes] (startTag setting embed levels name attributes) := by
  induction levels generalizing start name attributes with
  | zero =>
    refine startTagWith_gathers hroot fun expanded tags hstand => ?_
    obtain ⟨-, hneeded⟩ := neededLevels_standIn hregistered hstand
    omega
  | succ levels ih =>
    refine startTagWith_gathers hroot fun expanded tags hstand => ⟨_, rfl, ?_⟩
    obtain ⟨hinside, hneeded⟩ := neededLevels_standIn hregistered hstand
    have hseen : (start.beginExpansion expanded).rootSeen = true := hroot
    have hleft : neededLevels setting (start.beginExpansion expanded) ≤ levels := by omega
    exact replay_gathers (ih hseen hinside hleft) tags

theorem event_gathers (hroot : start.rootSeen = true) (hregistered : start.Registered) (event : MarkupEvent) :
    Gathers setting start id base [event] (Draw.event setting embed event) := by
  cases event with
  | startTag name attributes =>
    obtain ⟨unfolded, hunfolds, hcollects⟩ : Gathers setting start id base [.startTag name attributes]
        (startTag setting embed (useLevels setting start) name attributes) :=
      startTag_gathers _ hroot hregistered (neededLevels_le_useLevels setting start) name attributes
    refine ⟨unfolded, hunfolds, fun drawing around shapes hdocument hdepth => ?_⟩
    have hsame : useLevels setting drawing.document = useLevels setting start := hdocument ▸ rfl
    obtain ⟨ledger, hresult⟩ := hcollects drawing around shapes hdocument hdepth
    refine ⟨ledger, ?_⟩
    rw [Draw.event, document_bind, hsame, hresult]
  | endTag name => exact Gathers.endTag name
  | text text => exact ⟨_, .keep rfl .nil, .characters text⟩

/-- The content of a clip path is handled event by event. -/
theorem events_gathers (hroot : start.rootSeen = true) (hregistered : start.Registered)
    (events : List MarkupEvent) : Gathers setting start id base events (Draw.events setting embed events) := by
  induction events with
  | nil => exact ⟨[], .nil, .nil⟩
  | cons event rest ih => exact (event_gathers hroot hregistered event).bind ih

end Gathers

end Draw

end SvgPage
