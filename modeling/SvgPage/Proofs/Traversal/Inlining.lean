import SvgPage.Proofs.Exact
import SvgPage.Proofs.Traversal.Expansion
import SvgPage.Proofs.Traversal.Reached

namespace SvgPage

open Document

/-- The events of an element with an id that no other element in it has. It is drawn by itself: the element
    and those in it refer to no element, and none refers to them to be painted or clipped. A `use` of the
    element stands for the element as it is. -/
structure Referable (id : String) where
  name : String
  attributes : Attributes
  content : List MarkupEvent
  id_ne_empty : id ≠ ""
  get?_id : attributes.get? "id" = some id
  openAfter_content : Tag.openAfter [] (MarkupEvent.tags content) = some []
  isSelfContained : (ElementKind.ofName name).isSelfContained = true
  ne_image : ElementKind.ofName name ≠ .image
  ne_symbol : ElementKind.ofName name ≠ .symbol
  content_isSelfContained : ∀ name attributes, .startTag name attributes ∈ content →
    (ElementKind.ofName name).isSelfContained = true ∧ attributes.get? "id" ≠ some id

namespace Referable

variable {id : String} (element : Referable id)

/-- The element where it stands. -/
def events : List MarkupEvent :=
  .startTag element.name element.attributes :: (element.content ++ [.endTag element.name])

/-- The element without its id. -/
def anonymous : List MarkupEvent :=
  .startTag element.name (element.attributes.erase "id") :: (element.content ++ [.endTag element.name])

theorem isSelfContained_of_mem {name : String} {attributes : Attributes}
    (hmem : .startTag name attributes ∈ element.anonymous) : (ElementKind.ofName name).isSelfContained = true := by
  obtain hfirst | hmem := List.mem_cons.1 hmem
  · cases hfirst
    exact element.isSelfContained
  · obtain hinside | hlast := List.mem_append.1 hmem
    · exact (element.content_isSelfContained name attributes hinside).1
    · cases List.mem_singleton.1 hlast

theorem depthAfter_tags : Tag.depthAfter 0 (MarkupEvent.tags element.anonymous) = some 0 := by
  have helement : MarkupEvent.IsElement element.anonymous := ⟨_, _, _, rfl, element.openAfter_content⟩
  exact Tag.depthAfter_of_openAfter (helement.openAfter [])

theorem transcript_anonymous :
    MarkupEvent.transcript "" element.anonymous =
      (.startTag element.name (element.attributes.erase "id") "" ::
        (MarkupEvent.transcript "" (element.content ++ [.endTag element.name])).1, "") := by
  rw [anonymous, MarkupEvent.transcript, MarkupEvent.transcript_append_endTag]

end Referable

namespace Exact

/-- A label with a part that is set apart. -/
def label : Referable "r" where
  name := "text"
  attributes := ⟨[("id", "r"), ("x", "1"), ("y", "2")]⟩
  content := [.text "A", .text "B", .startTag "tspan" ⟨[]⟩, .text "C", .endTag "tspan"]
  id_ne_empty := by decide
  get?_id := rfl
  openAfter_content := rfl
  isSelfContained := by decide
  ne_image := by decide
  ne_symbol := by decide
  content_isSelfContained := by
    intro name attributes hmem
    obtain ⟨rfl, rfl⟩ : name = "tspan" ∧ attributes = ⟨[]⟩ := by simpa using hmem
    decide

/-- A rectangle whose id ends in a blank. -/
def blankEnd : Referable "r " where
  name := "rect"
  attributes := ⟨[("id", "r "), ("width", "5"), ("height", "4")]⟩
  content := []
  id_ne_empty := by decide
  get?_id := rfl
  openAfter_content := rfl
  isSelfContained := by decide
  ne_image := by decide
  ne_symbol := by decide
  content_isSelfContained := fun _ _ => List.not_mem_nil.elim

end Exact

namespace Stage

variable {α : Type} [Scalar α] {setting : Setting α} {embed : Option (Embedding α)}

/-- A `use` of an element that has been recorded does to a drawing what the tags and the text of the element
    do there, however the text is split. -/
theorem inlines_of_reached [Scalar.Comparable α] {id use : String} (element : Referable id)
    {events rest inlined : List MarkupEvent} {drawing recorded : Drawing α} {stage : Stage α}
    (hreached : Reached setting embed events ⟨drawing, [], element.events ++ rest⟩)
    (hroot : drawing.document.rootSeen = true) (hclip : drawing.document.clip = none)
    (hrecorded : Draw.events setting embed element.events drawing = (.ok (), recorded))
    (hruns : Runs setting embed (.ok ⟨recorded, [], rest⟩) (.ok stage))
    (hdefined : stage.document.definitions.get? id = recorded.document.definitions.get? id)
    (hexpanding : id ∉ stage.document.expanding)
    (hlimit : setting.options.nesting.isReached stage.document.expanding.length = false)
    (htrim : Text.trimEnd id = id) (huse : ElementKind.ofName use = .use)
    (hinlined : MarkupEvent.transcript "" inlined = MarkupEvent.transcript "" element.anonymous) :
    let used := Draw.events setting embed [.startTag use (Use.reference id), .endTag use] stage.drawing
    let drawn := Draw.events setting embed inlined stage.drawing
    used.1 = drawn.1 ∧ used.2.document.output = drawn.2.document.output ∧ used.2.ledger = drawn.2.ledger ∧
      used.2.embedded = drawn.2.embedded := by
  obtain ⟨hcounts, hregistered⟩ := hreached.counts
  have hlater := runs_of_events_ok rest hregistered hrecorded
  have hall := hlater.trans hruns
  have hseen : stage.document.rootSeen = true :=
    Runs.induction hall hroot fun _ _ hstage hpasses => hpasses.rootSeen hstage
  obtain ⟨leadingText, hcomplete⟩ := Draw.definitions_of_events hroot hcounts.replayDepth hclip
    element.isSelfContained element.get?_id element.id_ne_empty element.openAfter_content
    element.content_isSelfContained hrecorded
  have hscript := hinlined.trans element.transcript_anonymous
  have hkinds (name : String) (attributes : Attributes) (hmem : .startTag name attributes ∈ inlined) :
      (ElementKind.ofName name).isSelfContained = true :=
    element.isSelfContained_of_mem (MarkupEvent.startTag_mem_of_transcript hinlined hmem)
  have hdepth : Tag.depthAfter 0 (MarkupEvent.tags inlined) = some 0 := by
    rw [← MarkupEvent.transcript_tags "" inlined, hinlined, MarkupEvent.transcript_tags]
    exact element.depthAfter_tags
  obtain ⟨hresult, hmatches⟩ := Draw.events_mirrors_use embed hseen (hreached.trans hall).counts.2 huse
    element.id_ne_empty htrim (hdefined.trans hcomplete) hexpanding hlimit element.ne_image element.ne_symbol hkinds
    hdepth hscript
  exact ⟨hresult.symm, (congrArg Document.output hmatches.plain).symm, hmatches.ledger.symm,
    hmatches.embedded.symm⟩

/-- A use of a label does what the label itself does with its text in one piece. -/
theorem inlines_label :
    let drawing := (Draw.events Exact.setting none [Exact.root] (.initial Exact.setting {})).2
    let recorded := (Draw.events Exact.setting none Exact.label.events drawing).2
    let used := Draw.events Exact.setting none [.startTag "use" (Use.reference "r"), .endTag "use"] recorded
    let drawn := Draw.events Exact.setting none [.startTag "text" ⟨[("x", "1"), ("y", "2")]⟩, .text "AB",
      .startTag "tspan" ⟨[]⟩, .text "C", .endTag "tspan", .endTag "text"] recorded
    used.1 = drawn.1 ∧ used.2.document.output = drawn.2.document.output ∧ used.2.ledger = drawn.2.ledger ∧
      used.2.embedded = drawn.2.embedded := by
  have hopened : (Draw.events Exact.setting none [Exact.root] (.initial Exact.setting {})).1.isOk = true := by
    decide +kernel
  have hreached : Reached Exact.setting none ([Exact.root] ++ (Exact.label.events ++ [.endTag "svg"]))
      ⟨_, [], Exact.label.events ++ [.endTag "svg"]⟩ := .of_events (Draw.eq_ok hopened)
  have hdrawn : (Draw.events Exact.setting none Exact.label.events
      (Draw.events Exact.setting none [Exact.root] (.initial Exact.setting {})).2).1.isOk = true := by
    decide +kernel
  exact inlines_of_reached Exact.label hreached (by decide +kernel) (by decide +kernel) (Draw.eq_ok hdrawn) .refl
    rfl (by decide +kernel) (by decide +kernel) (by decide) (by decide) rfl

/-- A link to an id that ends in a blank goes astray, and what it should stand for is not drawn again. -/
theorem inlines_not_blankEnd :
    let drawing := (Draw.events Exact.setting none [Exact.root] (.initial Exact.setting {})).2
    let recorded := (Draw.events Exact.setting none Exact.blankEnd.events drawing).2
    let used := Draw.events Exact.setting none [.startTag "use" (Use.reference "r "), .endTag "use"] recorded
    let drawn := Draw.events Exact.setting none Exact.blankEnd.anonymous recorded
    Reached Exact.setting none ([Exact.root] ++ (Exact.blankEnd.events ++ [.endTag "svg"]))
        ⟨recorded, [], [.endTag "svg"]⟩ ∧
      drawing.document.clip = none ∧
      recorded.document.definitions.get? "r " = some (.complete
        [.startTag "rect" ⟨[("id", "r "), ("width", "5"), ("height", "4")]⟩ "", .endTag "rect" ""]) ∧
      "r " ∉ recorded.document.expanding ∧
      Exact.setting.options.nesting.isReached recorded.document.expanding.length = false ∧
      used.2.document.output ≠ drawn.2.document.output := by
  have hopened : (Draw.events Exact.setting none [Exact.root] (.initial Exact.setting {})).1.isOk = true := by
    decide +kernel
  have hdrawn : (Draw.events Exact.setting none Exact.blankEnd.events
      (Draw.events Exact.setting none [Exact.root] (.initial Exact.setting {})).2).1.isOk = true := by
    decide +kernel
  have hreached : Reached Exact.setting none ([Exact.root] ++ (Exact.blankEnd.events ++ [.endTag "svg"]))
      ⟨_, [], Exact.blankEnd.events ++ [.endTag "svg"]⟩ := .of_events (Draw.eq_ok hopened)
  have hruns := runs_of_events_ok [.endTag "svg"] hreached.counts.2 (Draw.eq_ok hdrawn)
  refine ⟨hreached.trans hruns, by decide +kernel, by decide +kernel, by decide +kernel, by decide +kernel, ?_⟩
  intro houtput
  exact absurd (congrArg Array.size houtput) (by decide +kernel)

end Stage

end SvgPage
