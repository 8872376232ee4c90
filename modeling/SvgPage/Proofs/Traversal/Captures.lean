import SvgPage.Proofs.Drawing.Withheld
import SvgPage.Proofs.Traversal.Nesting
import SvgPage.Proofs.Traversal.Restores

namespace SvgPage

open Document

variable {α : Type}

/-- A drawing to which nothing has been added that is seen: no operators, no documents and no resources. It
    goes on with the frame and the text it had. -/
structure Drawing.Withholds (before after : Drawing α) : Prop where
  document : before.document.Withholds after.document
  embedded : after.embedded = before.embedded
  resources : after.ledger.resources = before.ledger.resources

namespace Drawing.Withholds

variable {first second third : Drawing α}

@[refl] theorem refl (drawing : Drawing α) : Withholds drawing drawing := ⟨.refl _, rfl, rfl⟩

@[trans] theorem trans (h : Withholds first second) (hnext : Withholds second third) :
    Withholds first third :=
  ⟨h.document.trans hnext.document, hnext.embedded.trans h.embedded, hnext.resources.trans h.resources⟩

end Drawing.Withholds

/-- Elements are open around a scope. Those in whose content nothing is drawn have quiet end tags. -/
inductive Shelters : List (OpenElement α) → Scope α → Prop
  | nil {scope} (hdrawing : scope.isDrawing = true) : Shelters [] scope
  | cons {element outer scope} (houter : Shelters outer (element.closing.undo scope))
      (hquiet : scope.isDrawing = false → element.closing.isQuiet = true) :
      Shelters (element :: outer) scope

/-- The end tag of an element that is drawn does not lead to where nothing is drawn. -/
theorem Closing.isDrawing_undo {scope : Scope α} (h : scope.isDrawing = true) (closing : Closing α) :
    (closing.undo scope).isDrawing = true := by
  rw [Scope.isDrawing, Bool.and_eq_true, beq_iff_eq, Option.isNone_iff_eq_none] at h
  obtain ⟨hdefinitions, hclip⟩ := h
  cases closing with
  | clipElement matrix => simp [undo, Scope.isDrawing, hdefinitions, hclip]
  | _ => simp [undo, Scope.isDrawing, hdefinitions, hclip]

theorem Document.isDrawing_unwind (elements : List (OpenElement α)) {scope : Scope α}
    (h : scope.isDrawing = true) : (unwind elements scope).isDrawing = true := by
  induction elements generalizing scope with
  | nil => exact h
  | cons element elements ih => exact ih (Closing.isDrawing_undo h element.closing)

/-- Nothing is drawn in elements that have been opened where nothing is drawn. -/
theorem Document.Within.isDrawing_eq {base document : Document α} (h : Within base document)
    (hbase : base.isDrawing = false) : document.isDrawing = false := by
  obtain ⟨-, above, -, hunwind, -⟩ := h
  cases hdrawing : document.isDrawing with
  | false => rfl
  | true =>
    have hbelow : (unwind above document.scope).isDrawing = true := isDrawing_unwind above hdrawing
    rw [hunwind] at hbelow
    exact hbelow.symm.trans hbase

namespace Document

/-- A document whose elements shelter what is not drawn from being seen. Before the root nothing is kept. -/
structure Sheltered (document : Document α) : Prop where
  unopened : document.rootSeen = false → document.isDrawing = true
  elements : Shelters document.openElements document.scope

variable {setting : Setting α} {document result : Document α}

/-- An element in which nothing is drawn has a quiet end tag. -/
theorem Opens.isQuiet_closing {kind : ElementKind} {opening : Opening α}
    (h : Opens setting document kind result opening) (hdrawing : result.isDrawing = false) :
    opening.closing.isQuiet = true := by
  have hdrawn (hdocument : document.isDrawing = true) (hholder : kind.isHolder = false) :
      opening.closing.isQuiet = true := by
    rw [h.isDrawing_eq, hdocument, hholder] at hdrawing
    cases hdrawing
  cases h with
  | group frame hdocument hprologue => exact hdrawn hdocument rfl
  | nestedSvg frame hdocument hprologue => exact hdrawn hdocument rfl
  | text frame hdocument hkind hdepth hprologue =>
    obtain rfl | ⟨rfl, -⟩ := hkind <;> exact hdrawn hdocument rfl
  | span frame hdocument htext hdepth hblock => exact hdrawn hdocument rfl
  | _ => rfl

namespace Sheltered

theorem of_eq (h : document.Sheltered) (hroot : result.rootSeen = document.rootSeen)
    (helements : result.openElements = document.openElements) (hscope : result.scope = document.scope) :
    result.Sheltered where
  unopened hunseen := (congrArg Scope.isDrawing hscope).trans (h.unopened (hroot.symm.trans hunseen))
  elements := by
    rw [helements, hscope]
    exact h.elements

theorem addText (h : document.Sheltered) (text : String) : (document.addText text).Sheltered :=
  h.of_eq (congrArg Standing.rootSeen (addText_standing document text))
    (congrArg Standing.openElements (addText_standing document text)) (addText_scope document text)

theorem push (h : document.Sheltered) {element : OpenElement α}
    (hroot : result.rootSeen = false → result.isDrawing = true)
    (helements : result.openElements = element :: document.openElements)
    (hscope : element.closing.undo result.scope = document.scope)
    (hquiet : result.isDrawing = false → element.closing.isQuiet = true) : result.Sheltered where
  unopened := hroot
  elements := by
    rw [helements]
    refine .cons ?_ hquiet
    rw [hscope]
    exact h.elements

theorem rootSeen (h : document.Sheltered) (hdrawing : document.isDrawing = false) :
    document.rootSeen = true := by
  cases hroot : document.rootSeen with
  | true => rfl
  | false =>
    rw [h.unopened hroot] at hdrawing
    cases hdrawing

theorem isQuiet_closing (h : document.Sheltered) (hdrawing : document.isDrawing = false)
    {element : OpenElement α} {outer : List (OpenElement α)}
    (helements : document.openElements = element :: outer) : element.closing.isQuiet = true := by
  obtain ⟨-, hshelters⟩ := h
  rw [helements] at hshelters
  cases hshelters with
  | cons houter hquiet => exact hquiet hdrawing

variable [Scalar α] {event : MarkupEvent} {begun : Option Expansion}

theorem handles (h : document.Sheltered) (hhandles : Handles setting document event result begun) :
    result.Sheltered := by
  cases hhandles with
  | text text => exact h.addText text
  | @endTag name element outer _ helements hends =>
    have hstanding := hends.standing_eq
    have hscope : result.scope = element.closing.undo document.scope := hends.scope_eq
    have houter : result.openElements = outer := congrArg Standing.openElements hstanding
    have hroot : result.rootSeen = document.rootSeen := congrArg Standing.rootSeen hstanding
    constructor
    · intro hunseen
      have hdocument : document.scope.isDrawing = true := h.unopened (hroot.symm.trans hunseen)
      have hdrawing := Closing.isDrawing_undo hdocument element.closing
      rwa [← hscope] at hdrawing
    · obtain ⟨-, hshelters⟩ := h
      rw [helements] at hshelters
      rw [houter, hscope]
      cases hshelters with
      | cons houter hquiet => exact houter
  | root frame hroot hname hsize hrest =>
    have hdrawing : document.isDrawing = true := h.unopened hroot
    refine h.push (fun _ => hdrawing) rfl rfl fun hkept => ?_
    have hdocument : document.isDrawing = false := hkept
    rw [hdrawing] at hdocument
    cases hdocument
  | @element _ _ recording _ _ opened _ hroot hrecords hopens hopening =>
    have hstanding := hopens.standing_eq.trans hrecords.standing_eq
    have hseen : opened.rootSeen = true := (congrArg Standing.rootSeen hstanding).trans hroot
    refine h.push (fun hunseen => ?_) (congrArg (_ :: Standing.openElements ·) hstanding)
      (hopens.undo_scope.trans hrecords.scope_eq) hopens.isQuiet_closing
    have hopened : opened.rootSeen = false := hunseen
    rw [hseen] at hopened
    cases hopened
  | use hroot hrecords hopens =>
    exact h.of_eq (congrArg Standing.rootSeen hrecords.standing_eq)
      (congrArg Standing.openElements hrecords.standing_eq) hrecords.scope_eq

end Sheltered

end Document

namespace Stage

variable [Scalar α] {setting : Setting α} {embed : Option (Embedding α)} {stage next fetched : Stage α}

omit [Scalar α] in
theorem fetch_sheltered {event : MarkupEvent} (h : stage.fetch = some (event, fetched))
    (hsheltered : stage.document.Sheltered) : fetched.document.Sheltered := by
  obtain hsame | ⟨text, htext⟩ := fetch_document h
  · exact hsame ▸ hsheltered
  · exact htext ▸ hsheltered.addText text

omit [Scalar α] in
theorem fetch_scope {event : MarkupEvent} (h : stage.fetch = some (event, fetched)) :
    fetched.document.scope = stage.document.scope := by
  obtain hsame | ⟨text, htext⟩ := fetch_document h
  · rw [hsame]
  · rw [htext, addText_scope]

theorem Passes.sheltered (h : Passes setting stage next) (hsheltered : stage.document.Sheltered) :
    next.document.Sheltered := by
  cases h with
  | expanded hexpansions hrest hdocument hnext hevents =>
    rw [hdocument]
    exact hsheltered.push hsheltered.unopened rfl rfl fun _ => rfl
  | handled hfetch hhandles hnext hevents => exact (fetch_sheltered hfetch hsheltered).handles hhandles

theorem Reached.sheltered {events : List MarkupEvent} (h : Reached setting embed events stage) :
    stage.document.Sheltered := by
  obtain ⟨ledger, hruns⟩ := h
  have hinitial : (Stage.initial setting ledger events).document.Sheltered := ⟨fun _ => rfl, .nil rfl⟩
  exact hruns.induction (P := fun stage => stage.document.Sheltered) hinitial
    fun _ _ hstage hpasses => hpasses.sheltered hstage

omit [Scalar α] in
/-- The characters before a recorded tag are not kept for a text where nothing is drawn. -/
theorem fetch_withholds {event : MarkupEvent} (h : stage.fetch = some (event, fetched))
    (hdrawing : stage.document.isDrawing = false) : stage.drawing.Withholds fetched.drawing := by
  rw [fetch] at h
  split at h
  next expansion outer hexpansions =>
    split at h
    · cases h
    next tag rest hrest =>
      cases h
      exact ⟨addText_withholds hdrawing tag.leadingText, rfl, rfl⟩
  next hexpansions =>
    split at h
    · cases h
    · cases h
      exact .refl _

/-- Where nothing is drawn, a start tag leaves what is seen as it is. -/
theorem startTag_withholds {name : String} {attributes : Attributes}
    (hroot : stage.document.rootSeen = true) (hdrawing : stage.document.isDrawing = false)
    (h : (stage.startTag setting name attributes).resolve embed = some (.ok next)) :
    stage.drawing.Withholds next.drawing := by
  obtain ⟨hbegun, hquiet, hresources⟩ :=
    beginTag_withholds setting hdrawing name attributes stage.drawing.ledger
  rw [startTag, if_pos hroot] at h
  revert h
  generalize stage.document.beginTag setting name attributes stage.drawing.ledger = result at hbegun hquiet hresources ⊢
  intro h
  obtain ⟨⟨document, ⟨opening, recorded, defines⟩⟩, ledger⟩ := result
  cases opening with
  | element closing =>
    cases h
    exact ⟨⟨hbegun.output, hbegun.frame, hbegun.text⟩, rfl, hresources⟩
  | expansion id tags =>
    cases h
    exact ⟨⟨hbegun.output, hbegun.frame, hbegun.text⟩, rfl, hresources⟩
  | embedding inner markup => cases hquiet

/-- So does any step at which nothing is drawn. -/
theorem step_withholds (hsheltered : stage.document.Sheltered)
    (hdrawing : stage.document.isDrawing = false)
    (h : (stage.step setting).resolve embed = some (.ok next)) : stage.drawing.Withholds next.drawing := by
  rw [step] at h
  split at h
  next event fetched hfetch =>
    have hfetched := fetch_withholds hfetch hdrawing
    have hstill : fetched.document.isDrawing = false :=
      (congrArg Scope.isDrawing (fetch_scope hfetch)).trans hdrawing
    have hsheltered := fetch_sheltered hfetch hsheltered
    refine hfetched.trans ?_
    cases event with
    | startTag name attributes => exact startTag_withholds (hsheltered.rootSeen hstill) hstill h
    | endTag name =>
      cases helements : fetched.document.openElements with
      | nil =>
        rw [handle, advanceBy, Draw.endTag_nil setting name helements] at h
        cases h
      | cons element outer =>
        rw [handle, advanceBy, Draw.endTag_cons setting name helements] at h
        cases h
        have hquiet := hsheltered.isQuiet_closing hstill helements
        obtain ⟨hended, hledger⟩ := endElement_withholds setting
          { fetched.document with openElements := outer } hquiet name fetched.drawing.ledger
        exact ⟨⟨hended.output, hended.frame, hended.text⟩, rfl, congrArg Ledger.resources hledger⟩
    | text text =>
      cases h
      exact ⟨addText_withholds hstill text, rfl, rfl⟩
  next hfetch =>
    obtain ⟨expansion, outer, hexpansions, hrest⟩ | ⟨hexpansions, -⟩ := fetch_eq_none hfetch
    · rw [hexpansions] at h
      cases h
      exact ⟨⟨rfl, rfl, rfl⟩, rfl, rfl⟩
    · rw [hexpansions] at h
      cases h

/-- The elements that are opened where nothing is drawn keep it so, and what is handled in them is not
    drawn either. -/
theorem withholds_of_runs {first : Stage α} {held : List Held} {expanding last : List String} {depth : Nat}
    (h : Runs setting embed (.ok first) (.ok stage))
    (hsound : Sound first.document.openElements held expanding depth last first)
    (hheld : held.countP Held.defines = first.document.recordings.length)
    (hsheltered : first.document.Sheltered) (hdrawing : first.document.isDrawing = false) :
    first.drawing.Withholds stage.drawing := by
  have hroot := hsheltered.rootSeen hdrawing
  have hall : Runs setting embed (.ok first) (.ok stage) ∧ stage.document.Sheltered ∧
      first.drawing.Withholds stage.drawing := by
    refine h.induction_step (P := fun stage => Runs setting embed (.ok first) (.ok stage) ∧
      stage.document.Sheltered ∧ first.drawing.Withholds stage.drawing) ⟨.refl, hsheltered, .refl _⟩
      fun current next ⟨hruns, hcurrent, hwithheld⟩ hstep => ?_
    obtain ⟨hwithin, -⟩ := within_of_runs hruns hsound hheld (.refl hroot) (.refl _)
    have hstill := hwithin.isDrawing_eq hdrawing
    exact ⟨hruns.tail (.step hstep), (step_passes hstep).sheltered hcurrent,
      hwithheld.trans (step_withholds hcurrent hstill hstep)⟩
  exact hall.2.2

/-- While the content of elements is kept as definitions or as clip shapes, nothing that is handled is
    drawn, uses in a clip path included. -/
theorem withholds_of_reached {events : List MarkupEvent} {event : MarkupEvent} {after : Drawing α}
    (hevents : (Tag.openAfter [] (MarkupEvent.tags events)).isSome = true)
    (hreached : Reached setting embed events stage)
    (hkept : 0 < stage.document.definitionsDepth ∨ stage.document.clip.isSome = true)
    (h : Draw.event setting embed event stage.drawing = (.ok (), after)) :
    stage.drawing.Withholds after := by
  obtain ⟨last, hlast⟩ := Option.isSome_iff_exists.1 hevents
  have hsound := hreached.sound hlast
  have hsheltered := hreached.sheltered
  have hdrawing : stage.document.isDrawing = false := by
    rw [isDrawing, Bool.and_eq_false_iff, beq_eq_false_iff_ne, Option.isNone_eq_false_iff]
    exact hkept.imp_left Nat.ne_of_gt
  cases event with
  | startTag name attributes =>
    have htags : Tag.openAfter [] (MarkupEvent.tags [.startTag name attributes]) = some [name] := rfl
    obtain ⟨held, hheld, hfirst⟩ := hsound.resume htags
    have hruns : Runs setting embed _ (outcome [] [] (Draw.event setting embed _ stage.drawing)) :=
      event_runs (.startTag name attributes) stage.drawing [] hsound.registered
    rw [h] at hruns
    exact withholds_of_runs hruns hfirst hheld hsheltered hdrawing
  | endTag name =>
    let ending : Stage α := ⟨stage.drawing, [], [.endTag name]⟩
    have hended : Draw.endTag setting name stage.drawing = (.ok (), after) := h
    have hstep : (ending.step setting).resolve embed = some (.ok ⟨after, [], []⟩) := by
      simp only [ending, step, fetch, handle, advanceBy, hended, Progress.resolve]
    have hending : ending.document.Sheltered := hsheltered
    exact step_withholds hending hdrawing hstep
  | text text =>
    cases h
    exact ⟨addText_withholds hdrawing text, rfl, rfl⟩

/-- A rectangle that is used in a clip path becomes a part of it, and is not drawn. -/
theorem withholds_used :
    let opened := (Draw.events Exact.setting none Exact.clipping (.initial Exact.setting {})).2
    let after := (Draw.event Exact.setting none Exact.use opened).2
    Reached Exact.setting none (Exact.clipping ++ [Exact.use]) ⟨opened, [], [Exact.use]⟩ ∧
      opened.document.clip.isSome = true ∧
      (after.document.clipPaths.get? "c").map List.length = some 1 ∧ opened.Withholds after := by
  intro opened after
  have hopened : (Draw.events Exact.setting none Exact.clipping
      (.initial Exact.setting {})).1.isOk = true := by
    decide +kernel
  have hclip : opened.document.clip.isSome = true := by
    decide +kernel
  have hused : (Draw.event Exact.setting none Exact.use opened).1.isOk = true := by
    decide +kernel
  have hshapes : (after.document.clipPaths.get? "c").map List.length = some 1 := by
    decide +kernel
  have hreached : Reached Exact.setting none (Exact.clipping ++ [Exact.use]) ⟨opened, [], [Exact.use]⟩ :=
    .of_events (Draw.eq_ok hopened)
  exact ⟨hreached, hclip, hshapes, withholds_of_reached rfl hreached (.inr hclip) (Draw.eq_ok hused)⟩

end Stage

end SvgPage
