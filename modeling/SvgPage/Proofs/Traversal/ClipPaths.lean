import SvgPage.Proofs.Traversal.Collects

namespace SvgPage

open MarkupEvent (lineages)

variable {α : Type} [Scalar α]

namespace Document

/-- The id of a clip path: its own one, or one that is made up for it. -/
def clipPathId (document : Document α) (attributes : Attributes) : String :=
  (attributes.get? "id").getD (freshId document.generated "clipPath").1

/-- A clip path begins without shapes, and its own map comes first. -/
theorem openClipPath_eq (document : Document α) (attributes : Attributes) :
    ∃ generated, document.openClipPath attributes =
      { document with
        generated
        clipPaths := document.clipPaths.set (document.clipPathId attributes) []
        clip := some ⟨document.clipPathId attributes, attributes.transform⟩ } := by
  unfold openClipPath clipPathId
  cases attributes.get? "id" with
  | some id => exact ⟨_, rfl⟩
  | none => exact ⟨_, rfl⟩

theorem collecting_nil (start : Document α) {id : String} {base : Matrix α} (hclip : start.clip = some ⟨id, base⟩) :
    start.collecting id base [] [] = start := by
  have hsame : start.clipPaths.modify id (· ++ []) = start.clipPaths := by
    simp only [List.append_nil, Table.modify_id]
  rw [collecting, hsame, StartTag.product, List.filter_nil, List.foldr_nil, ← hclip]
  rfl

end Document

namespace Draw

variable {setting : Setting α} {embed : Option (Embedding α)} {drawing : Drawing α} {name : String}
  {attributes : Attributes} {content : List MarkupEvent}

/-- The start tag of a clip path begins to collect shapes. -/
theorem startTag_clipPath (levels : Nat) (hroot : drawing.document.rootSeen = true)
    (hclip : drawing.document.clip = none) (hname : ElementKind.ofName name = .clipPath) :
    startTag setting embed levels name attributes drawing =
      (.ok (), { drawing with
        document := (drawing.document.openClipPath attributes).push ⟨.clipPath, false, false⟩ }) := by
  have hrecorded : drawing.document.recordStart name attributes .clipPath = (drawing.document, false, false) := by
    simp only [Document.recordStart, ElementKind.isRecorded, Bool.not_false, Bool.or_true, if_true]
  have hopened : drawing.document.openElement setting .clipPath attributes drawing.ledger =
      ((drawing.document.openClipPath attributes, .element .clipPath), drawing.ledger) := by
    simp only [Document.openElement, hclip]
    rfl
  obtain ⟨handler, hhandler⟩ := exists_startTagWith setting embed levels
  rw [hhandler, startTagWith_apply setting embed handler name attributes hroot]
  simp only [Document.beginTag, hname, hrecorded, bind_apply, hopened]
  rfl

/-- The end tag of a clip path ends the collection. -/
theorem endTag_clipPath (drawing : Drawing α) {outer : List (OpenElement α)}
    (h : drawing.document.openElements = ⟨.clipPath, false, false⟩ :: outer) :
    endTag setting name drawing =
      (.ok (), { drawing with document := { drawing.document with clip := none, openElements := outer } }) :=
  endTag_cons setting name h

/-- A clip path collects the shapes of what its content unfolds to, and leaves all else in the document as it
    is, apart from the ids that are made up. -/
theorem clipPath_collects (embed : Option (Embedding α)) (hroot : drawing.document.rootSeen = true)
    (hclip : drawing.document.clip = none) (hregistered : drawing.document.Registered)
    (hholds : HoldsElements drawing.document.definitions) (hname : ElementKind.ofName name = .clipPath)
    (hcontent : Tag.openAfter [] (MarkupEvent.tags content) = some []) :
    let document := drawing.document
    let id := document.clipPathId attributes
    ∃ ledger generated unfolded, Unfolds setting document content unfolded ∧
      Draw.events setting embed (.startTag name attributes :: (content ++ [.endTag name])) drawing = (.ok (),
        { drawing with
          ledger
          document :=
            { document with
              generated
              clip := none
              clipPaths := (document.clipPaths.set id []).modify id (· ++ (lineages [] unfolded).filterMap
                (ClipShape.ofLineage? setting document.frame attributes.transform)) } }) := by
  intro document id
  obtain ⟨generated, hopened⟩ := document.openClipPath_eq attributes
  let start : Document α :=
    { document with
      generated
      clipPaths := document.clipPaths.set id []
      clip := some ⟨id, attributes.transform⟩
      openElements := ⟨.clipPath, false, false⟩ :: document.openElements }
  have hstarted : Draw.event setting embed (.startTag name attributes) drawing =
      (.ok (), { drawing with document := start }) := by
    rw [Draw.event, document_bind, startTag_clipPath _ hroot hclip hname, hopened]
    rfl
  have hseen : start.rootSeen = true := hroot
  have hinside : start.Registered :=
    ⟨hregistered.replayDepth, hregistered.nodup, hregistered.expanding, hregistered.recordings⟩
  obtain ⟨unfolded, hunfolds, hcollects⟩ : Gathers setting start id attributes.transform content
      (Draw.events setting embed content) := events_gathers hseen hinside content
  have hdepth : Tag.depthAfter 0 (MarkupEvent.tags unfolded) = some 0 :=
    (hunfolds.depthAfter_tags hholds 0).trans (Tag.depthAfter_of_openAfter hcontent)
  have hclosed : MarkupEvent.aroundAfter [] unfolded = [] :=
    List.length_eq_zero_iff.1 (MarkupEvent.length_aroundAfter hdepth)
  obtain ⟨ledger, hdrawn⟩ := hcollects { drawing with document := start } [] [] (start.collecting_nil rfl).symm
    (Option.isSome_of_eq_some hdepth)
  rw [hclosed, List.nil_append] at hdrawn
  refine ⟨ledger, generated, unfolded, hunfolds.congr rfl rfl, ?_⟩
  rw [Draw.events, bind_ok hstarted, events_append, bind_ok hdrawn, events_singleton]
  exact endTag_clipPath _ rfl

end Draw

/-- The shapes of a clip path are those that it has collected since it began. -/
theorem get?_collected {β : Type} (table : Table (List β)) (id other : String) (collected : List β) :
    ((table.set id []).modify id (· ++ collected)).get? other =
      if other = id then some collected else table.get? other := by
  rw [Table.get?_modify, Table.get?_set]
  split <;> rfl

namespace Exact

/-- The beginning of a document with a definition. -/
def defining : List MarkupEvent :=
  [root, .startTag "defs" ⟨[]⟩, .startTag "rect" ⟨[("id", "r"), ("width", "5"), ("height", "4")]⟩, .endTag "rect",
    .endTag "defs"]

/-- The attributes of a clip path that moves its shapes. -/
def shifting : Attributes := ⟨[("id", "c"), ("transform", "translate(1 2)")]⟩

/-- A rectangle in a group that is scaled, and a use of the definition after it that is moved on its own. -/
def shapes : List MarkupEvent :=
  [.startTag "g" ⟨[("transform", "scale(2)")]⟩, .startTag "rect" ⟨[("width", "5"), ("height", "4")]⟩, .endTag "rect",
    .endTag "g", .startTag "use" ⟨[("href", "#r"), ("transform", "translate(3 4)")]⟩, .endTag "use"]

end Exact

namespace Stage

variable {setting : Setting α} {embed : Option (Embedding α)} {stage : Stage α} {events content : List MarkupEvent}
  {name : String} {attributes : Attributes}

/-- The shapes of a clip path are those of all elements that come to one, in document order, where what stands
    for a `use` is right before it; there is one way to unfold the content so. The map of each is the product of
    those of the clip path, the elements between it and the shape, and the shape. Other clip paths keep their
    shapes. -/
theorem clipShapes_of_reached (hreached : Reached setting embed events stage)
    (hevents : (Tag.openAfter [] (MarkupEvent.tags events)).isSome = true)
    (hroot : stage.document.rootSeen = true) (hclip : stage.document.clip = none)
    (hname : ElementKind.ofName name = .clipPath) (hcontent : Tag.openAfter [] (MarkupEvent.tags content) = some []) :
    let document := stage.document
    let id := document.clipPathId attributes
    ∃ after unfolded,
      Draw.events setting embed (.startTag name attributes :: (content ++ [.endTag name])) stage.drawing =
          (.ok (), after) ∧
        (∀ other, Unfolds setting document content other ↔ other = unfolded) ∧
        after.document.clipPaths.get? id = some ((lineages [] unfolded).filterMap
          (ClipShape.ofLineage? setting document.frame attributes.transform)) ∧
        ∀ other, other ≠ id → after.document.clipPaths.get? other = document.clipPaths.get? other := by
  intro document id
  obtain ⟨last, hlast⟩ := Option.isSome_iff_exists.1 hevents
  have hsound := hreached.sound hlast
  obtain ⟨ledger, generated, unfolded, hunfolds, hdrawn⟩ := Draw.clipPath_collects embed hroot hclip
    hsound.registered hsound.holdsElements hname hcontent
  have hunique (other : List MarkupEvent) : Unfolds setting document content other ↔ other = unfolded :=
    ⟨hunfolds.unique, fun hother => hother ▸ hunfolds⟩
  refine ⟨_, unfolded, hdrawn, hunique, ?_, fun other hother => ?_⟩
  · exact (get?_collected ..).trans (if_pos rfl)
  · exact (get?_collected ..).trans (if_neg hother)

theorem clipShapes_shifting :
    let stage : Stage Rat :=
      ⟨(Draw.events Exact.setting none Exact.defining (.initial Exact.setting {})).2, [],
        .startTag "clipPath" Exact.shifting :: (Exact.shapes ++ [.endTag "clipPath", .endTag "svg"])⟩
    let document := stage.document
    ∃ after unfolded,
      Draw.events Exact.setting none (.startTag "clipPath" Exact.shifting :: (Exact.shapes ++ [.endTag "clipPath"]))
          stage.drawing = (.ok (), after) ∧
        (∀ other, Unfolds Exact.setting document Exact.shapes other ↔ other = unfolded) ∧
        after.document.clipPaths.get? "c" = some ((lineages [] unfolded).filterMap
          (ClipShape.ofLineage? Exact.setting document.frame Exact.shifting.transform)) ∧
        ∀ other, other ≠ "c" → after.document.clipPaths.get? other = document.clipPaths.get? other := by
  have hdefined : (Draw.events Exact.setting none Exact.defining (.initial Exact.setting {})).1.isOk = true := by
    decide +kernel
  have hreached : Reached Exact.setting none
      (Exact.defining ++ .startTag "clipPath" Exact.shifting :: (Exact.shapes ++ [.endTag "clipPath", .endTag "svg"]))
      ⟨_, [], _⟩ := .of_events (Draw.eq_ok hdefined)
  exact clipShapes_of_reached hreached (by decide) (by decide +kernel) (by decide +kernel) (by decide) (by decide)

/-- The map of the group is undone before the use, whose own map is part of the rectangle that stands for it. -/
example :
    let drawing := (Draw.events Exact.setting none Exact.defining (.initial Exact.setting {})).2
    let clipPath := .startTag "clipPath" Exact.shifting :: (Exact.shapes ++ [.endTag "clipPath"])
    let after := (Draw.events Exact.setting none clipPath drawing).2
    (after.document.clipPaths.get? "c").map (·.map ClipShape.matrix) =
      some [⟨2, 0, 0, 2, 1, 2⟩, ⟨1, 0, 0, 1, 4, 6⟩] := by
  decide +kernel

end Stage

end SvgPage
