import SvgPage.Proofs.Drawing.Hidden
import SvgPage.Proofs.Traversal.Moved

namespace SvgPage

open Document

variable {α : Type}

/-- Whatever is open in a hidden element is hidden. -/
inductive Conceals : List (OpenElement α) → Scope α → Prop
  | nil {scope} : Conceals [] scope
  | cons {element elements scope} (houter : Conceals elements (element.closing.undo scope))
      (hhidden : (element.closing.undo scope).frame.hidden = true → scope.frame.hidden = true) :
      Conceals (element :: elements) scope

/-- What is hidden around elements is hidden inside them. -/
theorem Conceals.hidden_of_unwind {above elements : List (OpenElement α)} {scope : Scope α}
    (h : Conceals (above ++ elements) scope) (hhidden : (unwind above scope).frame.hidden = true) :
    scope.frame.hidden = true := by
  induction above generalizing scope with
  | nil => exact hhidden
  | cons element above ih =>
    cases h with
    | cons houter hinside => exact hinside (ih houter hhidden)

namespace Document

/-- A document in which whatever is open in a hidden element is hidden. -/
def IsConcealing (document : Document α) : Prop := SvgPage.Conceals document.openElements document.scope

namespace IsConcealing

variable {document result : Document α} {element : OpenElement α}

theorem of_eq (h : document.IsConcealing) (helements : result.openElements = document.openElements)
    (hscope : result.scope = document.scope) : result.IsConcealing := by
  rw [IsConcealing, helements, hscope]
  exact h

theorem addText (h : document.IsConcealing) (text : String) : (document.addText text).IsConcealing :=
  h.of_eq (congrArg Standing.openElements (document.addText_standing text)) (document.addText_scope text)

theorem push (h : document.IsConcealing) (helements : result.openElements = document.openElements)
    (hscope : element.closing.undo result.scope = document.scope)
    (hhidden : document.frame.hidden = true → result.frame.hidden = true) :
    (result.push element).IsConcealing := by
  change SvgPage.Conceals (element :: result.openElements) result.scope
  rw [helements]
  refine .cons ?_ ?_
  · rw [hscope]
    exact h
  · rw [hscope]
    exact hhidden

theorem pop {outer : List (OpenElement α)} (h : document.IsConcealing)
    (hopen : document.openElements = element :: outer) (helements : result.openElements = outer)
    (hscope : result.scope = element.closing.undo document.scope) : result.IsConcealing := by
  rw [IsConcealing, hopen] at h
  rw [IsConcealing, helements, hscope]
  cases h with
  | cons houter hhidden => exact houter

end IsConcealing

end Document

variable [Scalar α]

namespace Turns

variable {setting : Setting α} {drawing next : Drawing α} {event : MarkupEvent}

theorem isConcealing (h : Turns setting drawing next event) (hconceals : drawing.document.IsConcealing) :
    next.document.IsConcealing := by
  cases h with
  | text hnext =>
    subst hnext
    exact hconceals.addText _
  | @endTag name element outer helements hnext =>
    subst hnext
    have hends := endElement_ends setting { drawing.document with openElements := outer } element name
      drawing.ledger
    exact hconceals.pop helements (congrArg Standing.openElements hends.standing_eq) hends.scope_eq
  | @root name attributes opened closing ledger hroot hname hopened hnext =>
    subst hnext
    obtain ⟨size, rest, -, -, rfl, hresult⟩ := openRoot_eq hopened
    have helements : opened.openElements = drawing.document.openElements := by
      rw [hresult]
      rfl
    refine hconceals.push helements ?_ fun hhidden => ?_
    · rw [hresult]
      rfl
    · rw [openRoot_hidden hopened]
      exact Bool.or_eq_true_iff.2 (.inl hhidden)
  | @element name attributes hroot hnext =>
    obtain ⟨-, hdocument⟩ := hnext
    obtain ⟨recording, hrecords, hopens⟩ := beginTag_eq setting drawing.document name attributes drawing.ledger
    rw [hdocument]
    exact hconceals.push (congrArg Standing.openElements (hopens.standing_eq.trans hrecords.standing_eq))
      (hopens.undo_scope.trans hrecords.scope_eq)
      fun hhidden => (beginTag_conceals setting attributes drawing.ledger hhidden name).1.hidden
  | @use name attributes id tags hroot hnext =>
    obtain ⟨hopening, -, hdocument⟩ := hnext
    obtain ⟨recording, hrecords, hopens⟩ := beginTag_eq setting drawing.document name attributes drawing.ledger
    rw [hopening] at hopens
    obtain ⟨hsame, -⟩ := hopens.expansion_inv
    rw [hdocument, hsame]
    exact hconceals.of_eq (congrArg Standing.openElements hrecords.standing_eq) hrecords.scope_eq

/-- In a hidden element, nothing that is handled leaves marks on the page. -/
theorem unmarked (h : Turns setting drawing next event) (hroot : drawing.document.rootSeen = true)
    (hhidden : drawing.document.frame.hidden = true) : drawing.document.Unmarked next.document := by
  cases h with
  | text hnext =>
    subst hnext
    exact .of_output (addText_output ..)
  | @endTag name element outer helements hnext =>
    subst hnext
    let popped : Document α := { drawing.document with openElements := outer }
    have hpopped : popped.frame.hidden = true := hhidden
    exact (Unmarked.of_output rfl).trans (endElement_unmarked setting drawing.ledger hpopped element name)
  | root hunseen hname hopened hnext =>
    rw [hroot] at hunseen
    cases hunseen
  | @element name attributes hroot hnext =>
    obtain ⟨-, hdocument⟩ := hnext
    rw [hdocument]
    exact (beginTag_conceals setting attributes drawing.ledger hhidden name).1.unmarked
  | @use name attributes id tags hroot hnext =>
    obtain ⟨-, -, hdocument⟩ := hnext
    rw [hdocument]
    exact (beginTag_conceals setting attributes drawing.ledger hhidden name).1.unmarked

/-- The start tag of an element opens it, unless a use is expanded first. -/
theorem exists_openElements {name : String} {attributes : Attributes}
    (h : Turns setting drawing next (.startTag name attributes)) (hname : ElementKind.ofName name ≠ .use) :
    ∃ element, next.document.openElements = element :: drawing.document.openElements := by
  cases h with
  | @root _ _ opened closing ledger hroot hsvg hopened hnext =>
    subst hnext
    obtain ⟨size, rest, -, -, -, hresult⟩ := openRoot_eq hopened
    have helements : opened.openElements = drawing.document.openElements := by
      rw [hresult]
      rfl
    exact ⟨_, congrArg (_ :: ·) helements⟩
  | element hroot hnext =>
    obtain ⟨-, hdocument⟩ := hnext
    obtain ⟨recording, hrecords, hopens⟩ := beginTag_eq setting drawing.document name attributes drawing.ledger
    rw [hdocument]
    exact ⟨_, congrArg (_ :: Standing.openElements ·) (hopens.standing_eq.trans hrecords.standing_eq)⟩
  | use hroot hnext =>
    obtain ⟨hopening, -, -⟩ := hnext
    obtain ⟨recording, hrecords, hopens⟩ := beginTag_eq setting drawing.document name attributes drawing.ledger
    rw [hopening] at hopens
    exact absurd hopens.kind_of_expansion hname

theorem hidden {name : String} {attributes : Attributes}
    (h : Turns setting drawing next (.startTag name attributes)) (hdrawing : drawing.document.isDrawing = true)
    (hkind : (ElementKind.ofName name).isContainer = true)
    (hhides : drawing.document.HidesContent setting (.ofName name) attributes) :
    next.document.rootSeen = true ∧ next.document.frame.hidden = true := by
  cases h with
  | root hroot hsvg hopened hnext =>
    subst hnext
    obtain ⟨size, rest, -, -, -, hresult⟩ := openRoot_eq hopened
    obtain hnone | ⟨-, hseen, -⟩ := hhides
    · refine ⟨congrArg Document.rootSeen hresult, (openRoot_hidden hopened).trans ?_⟩
      exact Bool.or_eq_true_iff.2 (.inr (beq_iff_eq.2 hnone))
    · rw [hroot] at hseen
      cases hseen
  | element hroot hnext =>
    obtain ⟨-, hdocument⟩ := hnext
    obtain ⟨recording, hrecords, hopens⟩ := beginTag_eq setting drawing.document name attributes drawing.ledger
    have hstanding := hopens.standing_eq.trans hrecords.standing_eq
    rw [hdocument]
    exact ⟨(congrArg Standing.rootSeen hstanding).trans hroot, beginTag_hides hdrawing hkind hhides drawing.ledger⟩
  | use hroot hnext =>
    obtain ⟨hopening, -, -⟩ := hnext
    obtain ⟨recording, hrecords, hopens⟩ := beginTag_eq setting drawing.document name attributes drawing.ledger
    rw [hopening] at hopens
    rw [hopens.kind_of_expansion] at hkind
    cases hkind

end Turns

namespace Stage

variable {setting : Setting α} {embed : Option (Embedding α)} {events : List MarkupEvent}
  {stage next fetched : Stage α}

omit [Scalar α] in
theorem fetch_isConcealing {event : MarkupEvent} (h : stage.fetch = some (event, fetched))
    (hconceals : stage.document.IsConcealing) : fetched.document.IsConcealing := by
  obtain hsame | ⟨text, htext⟩ := fetch_document h
  · exact hsame ▸ hconceals
  · exact htext ▸ hconceals.addText text

theorem step_isConcealing (hextends : ∀ embed' ∈ embed, embed'.Extends)
    (h : (stage.step setting).resolve embed = some (.ok next)) (hconceals : stage.document.IsConcealing) :
    next.document.IsConcealing := by
  obtain ⟨expansion, outer, -, -, hnext⟩ | ⟨event, fetched, hfetch, hturns⟩ := step_turns hextends h
  · have hresult : next.document = (stage.document.endExpansion expansion.id).push expansion.element :=
      congrArg Drawing.document hnext
    rw [hresult]
    exact hconceals.push rfl rfl id
  · exact hturns.isConcealing (fetch_isConcealing hfetch hconceals)

theorem Reached.isConcealing (h : Reached setting embed events stage)
    (hextends : ∀ embed' ∈ embed, embed'.Extends) : stage.document.IsConcealing := by
  obtain ⟨ledger, hruns⟩ := h
  exact hruns.induction_step (P := fun stage => stage.document.IsConcealing) .nil
    fun _ _ hconceals hstep => step_isConcealing hextends hstep hconceals

/-- After the start tag of an element, the element is open inside those that were open before. -/
theorem exists_openElements {name : String} {attributes : Attributes} (hextends : ∀ embed' ∈ embed, embed'.Extends)
    (hfetch : stage.fetch = some (.startTag name attributes, fetched)) (hname : ElementKind.ofName name ≠ .use)
    (h : (stage.step setting).resolve embed = some (.ok next)) :
    ∃ element, next.document.openElements = element :: stage.document.openElements := by
  obtain ⟨expansion, outer, -, hnone, -⟩ | ⟨event, fetched', hfetch', hturns⟩ := step_turns hextends h
  · rw [hnone] at hfetch
    cases hfetch
  · rw [hfetch] at hfetch'
    cases hfetch'
    obtain ⟨element, helements⟩ := hturns.exists_openElements hname
    exact ⟨element, helements.trans (congrArg (element :: Standing.openElements ·) (fetch_standing hfetch).1)⟩

/-- A step in a hidden element leaves no marks on the page. -/
theorem step_unmarked (hextends : ∀ embed' ∈ embed, embed'.Extends)
    (h : (stage.step setting).resolve embed = some (.ok next)) (hroot : stage.document.rootSeen = true)
    (hhidden : stage.document.frame.hidden = true) : stage.document.Unmarked next.document := by
  obtain ⟨expansion, outer, -, -, hnext⟩ | ⟨event, fetched, hfetch, hturns⟩ := step_turns hextends h
  · exact .of_output (congrArg (fun drawing => drawing.document.output) hnext)
  · obtain ⟨hframe, -, houtput⟩ := fetch_frame hfetch
    have hseen : fetched.document.rootSeen = true :=
      (congrArg Standing.rootSeen (fetch_standing hfetch).1).trans hroot
    have hstill : fetched.document.frame.hidden = true := (congrArg Frame.hidden hframe).trans hhidden
    exact (Unmarked.of_output houtput).trans (hturns.unmarked hseen hstill)

/-- Nor does it add a document. -/
theorem step_embedded_of_hidden (h : (stage.step setting).resolve embed = some (.ok next))
    (hhidden : stage.document.frame.hidden = true) : next.drawing.embedded = stage.drawing.embedded := by
  obtain hsame | ⟨inner, markup, waiting, element, -, -, hembedding, -, -, -⟩ := step_embedded h
  · exact hsame
  · obtain ⟨name, attributes, fetched, hfetch, hopening, -⟩ := step_embedding_inv hembedding
    have hstill : fetched.document.frame.hidden = true :=
      (congrArg Frame.hidden (fetch_frame hfetch).1).trans hhidden
    obtain ⟨-, hnone⟩ := beginTag_conceals setting attributes fetched.drawing.ledger hstill name
    rw [hopening] at hnone
    cases hnone

/-- All that is handled in a hidden element, its end tag included, leaves no marks on the page and adds no
    document. -/
theorem unmarked_of_runsInside {first later : Stage α} (hextends : ∀ embed' ∈ embed, embed'.Extends)
    (hconceals : first.document.IsConcealing) (hroot : first.document.rootSeen = true)
    (hhidden : first.document.frame.hidden = true)
    (hruns : RunsInside setting embed first.document.openElements first later) :
    first.document.Unmarked later.document ∧ later.drawing.embedded = first.drawing.embedded ∧
      later.document.rootSeen = true ∧ later.document.frame.hidden = true := by
  have hwithin {later : Stage α} (hruns : RunsInside setting embed first.document.openElements first later)
      (hlater : later.document.IsConcealing) :
      later.document.rootSeen = true ∧ later.document.frame.hidden = true := by
    obtain ⟨hseen, above, habove, hunwind, -⟩ := hruns.within (Within.refl hroot)
    rw [IsConcealing, habove] at hlater
    have hbelow : (unwind above later.document.scope).frame.hidden = true := by
      rw [hunwind]
      exact hhidden
    exact ⟨hseen, hlater.hidden_of_unwind hbelow⟩
  have hall : later.document.IsConcealing ∧ first.document.Unmarked later.document ∧
      later.drawing.embedded = first.drawing.embedded := by
    induction hruns with
    | refl => exact ⟨hconceals, .refl _, rfl⟩
    | tail hbefore hstep ih =>
      obtain ⟨hconcealed, hunmarked, hembedded⟩ := ih
      obtain ⟨hseen, hstill⟩ := hwithin hbefore hconcealed
      exact ⟨step_isConcealing hextends hstep.1 hconcealed,
        hunmarked.trans (step_unmarked hextends hstep.1 hseen hstill),
        (step_embedded_of_hidden hstep.1 hstill).trans hembedded⟩
  obtain ⟨hconcealed, hunmarked, hembedded⟩ := hall
  exact ⟨hunmarked, hembedded, hwithin hruns hconcealed⟩

/-- From the start tag of an element that is not displayed, or of an inner `svg` without area, up to and
    including its end tag, no operator is written that leaves marks on the page and no document is added,
    whatever the element contains and however that is to be displayed. -/
theorem unmarked_of_hidesContent {levels : Nat} {name : String} {attributes : Attributes}
    {opened later : Stage α} (hreached : Reached setting (Embedding.nested levels) events stage)
    (hfetch : stage.fetch = some (.startTag name attributes, fetched))
    (hdrawing : stage.document.isDrawing = true)
    (hkind : (ElementKind.ofName name).isContainer = true)
    (hhides : stage.document.HidesContent setting (.ofName name) attributes)
    (hopened : (stage.step setting).resolve (Embedding.nested levels) = some (.ok opened))
    (hruns : RunsInside setting (Embedding.nested levels) opened.document.openElements opened later) :
    (∃ element, opened.document.openElements = element :: stage.document.openElements) ∧
      opened.document.Unmarked later.document ∧ later.drawing.embedded = opened.drawing.embedded ∧
      ∀ next, (later.step setting).resolve (Embedding.nested levels) = some (.ok next) →
        opened.document.Unmarked next.document ∧ next.drawing.embedded = opened.drawing.embedded := by
  have hextends := nested_extends (α := α) levels
  have hconceals := step_isConcealing hextends hopened (hreached.isConcealing hextends)
  have hfetched : fetched.document.isDrawing = true :=
    (congrArg Scope.isDrawing (fetch_scope hfetch)).trans hdrawing
  have hstanding := (fetch_standing hfetch).1
  obtain ⟨expansion, outer, -, hnone, -⟩ | ⟨event, fetched', hfetch', hturns⟩ := step_turns hextends hopened
  · rw [hnone] at hfetch
    cases hfetch
  · rw [hfetch] at hfetch'
    cases hfetch'
    obtain ⟨hroot, hhidden⟩ := hturns.hidden hfetched hkind
      (hhides.congr (fetch_frame hfetch).1 (congrArg Standing.rootSeen hstanding))
    obtain ⟨hunmarked, hembedded, hseen, hstill⟩ := unmarked_of_runsInside hextends hconceals hroot hhidden hruns
    have huse : ElementKind.ofName name ≠ .use := by
      intro huse
      rw [huse] at hkind
      cases hkind
    exact ⟨exists_openElements hextends hfetch huse hopened, hunmarked, hembedded, fun next hnext =>
      ⟨hunmarked.trans (step_unmarked hextends hnext hseen hstill),
        (step_embedded_of_hidden hnext hstill).trans hembedded⟩⟩

/-- A rectangle that is to be displayed leaves no marks in a group that is not displayed. -/
theorem unmarked_in_hidden_group :
    let drawing := (Draw.events Exact.setting none [Exact.root] (.initial Exact.setting {})).2
    ∃ opened later next, (step Exact.setting ⟨drawing, [], Exact.concealed⟩).resolve none = some (.ok opened) ∧
      (opened.step Exact.setting).resolve none = some (.ok later) ∧
      (later.step Exact.setting).resolve none = some (.ok next) ∧
      opened.document.Unmarked next.document ∧ next.drawing.embedded = opened.drawing.embedded := by
  intro drawing
  have hok : (Draw.events Exact.setting none [Exact.root] (.initial Exact.setting {})).1.isOk = true := by
    decide +kernel
  have hreached : Reached Exact.setting (Embedding.nested 0) ([Exact.root] ++ Exact.concealed)
      ⟨drawing, [], Exact.concealed⟩ := .of_events (Draw.eq_ok hok)
  let next? (stage : Stage Rat) : Option (Stage Rat) :=
    ((stage.step Exact.setting).resolve none).bind Except.toOption
  have hnext {stage next : Stage Rat} (h : next? stage = some next) :
      (stage.step Exact.setting).resolve none = some (.ok next) := by
    obtain ⟨outcome, houtcome, hstage⟩ := Option.bind_eq_some_iff.1 h
    cases outcome with
    | ok stage =>
      cases hstage
      exact houtcome
    | error failure => cases hstage
  have hgoes : ((next? ⟨drawing, [], Exact.concealed⟩).any fun opened =>
      opened.fetch.any (fun fetched => fetched.1.tag? == some (.start "rect")) && (next? opened).any fun later =>
        (next? later).isSome) = true := by
    decide +kernel
  obtain ⟨opened, hopened, hrest⟩ := (Option.any_eq_true _ _).1 hgoes
  obtain ⟨hfetch, hrest⟩ := Bool.and_eq_true_iff.1 hrest
  obtain ⟨later, hlater, hrest⟩ := (Option.any_eq_true _ _).1 hrest
  obtain ⟨last, hlast⟩ := Option.isSome_iff_exists.1 hrest
  obtain ⟨⟨event, fetched⟩, hfetched, hshown⟩ := (Option.any_eq_true _ _).1 hfetch
  obtain ⟨attributes, rfl⟩ := MarkupEvent.eq_startTag (beq_iff_eq.1 hshown)
  obtain ⟨element, hpushed⟩ :=
    exists_openElements (nested_extends 0) hfetched (by decide) (hnext hlater)
  have hruns : RunsInside Exact.setting (Embedding.nested 0) opened.document.openElements opened later :=
    .single ⟨hnext hlater, [element], hpushed⟩
  obtain ⟨-, -, -, hends⟩ := unmarked_of_hidesContent hreached rfl (by decide +kernel) (by decide)
    (.inl (by decide +kernel)) (hnext hopened) hruns
  exact ⟨opened, later, last, hnext hopened, hnext hlater, hnext hlast, hends last (hnext hlast)⟩

end Stage

end SvgPage
