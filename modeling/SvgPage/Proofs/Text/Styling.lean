import SvgPage.Proofs.Exact
import SvgPage.Proofs.Text.Lays
import SvgPage.Proofs.Traversal.Run

namespace SvgPage

variable {α : Type} [Scalar α]

/-- The characters of content, in pieces that come with the elements around them. -/
def MarkupEvent.pieces : (around : List StartTag) → List MarkupEvent → List (String × List StartTag)
  | _, [] => []
  | around, .startTag name attributes :: rest => pieces (⟨name, attributes⟩ :: around) rest
  | around, .endTag _ :: rest => pieces around.tail rest
  | around, .text data :: rest => (data, around) :: pieces around rest

/-- Whether a link or another group begins. -/
def MarkupEvent.opensGroup : MarkupEvent → Bool
  | .startTag name _ => ElementKind.ofName name = .group
  | _ => false

namespace StartTag

/-- Whether an element has a style of its own for the text in it. -/
def isScope (tag : StartTag) : Bool := tag.kind = .span || tag.kind = .group

/-- The elements around part of a text that have a style for it. -/
def scopes (around : List StartTag) : List StartTag := around.filter isScope

theorem scopes_cons {tag : StartTag} (hspan : tag.kind ≠ .span) (hgroup : tag.kind ≠ .group)
    (around : List StartTag) : scopes (tag :: around) = scopes around := by
  have htag : tag.isScope = false := Bool.or_eq_false_iff.2 ⟨decide_eq_false hspan, decide_eq_false hgroup⟩
  exact List.filter_cons_of_neg (Bool.eq_false_iff.1 htag)

end StartTag

namespace Frame

variable (setting : Setting α) (frame : Frame α)

theorem inside_of_not_isScope {tag : StartTag} (h : tag.isScope = false) : frame.inside setting tag = frame := by
  rw [StartTag.isScope, Bool.or_eq_false_iff, decide_eq_false_iff_not, decide_eq_false_iff_not] at h
  rw [inside]
  split
  next hkind => exact absurd hkind h.1
  next hkind => exact absurd hkind h.2
  next => rfl

/-- Only elements with a style of their own count for the frame inside them. -/
theorem within_scopes (around : List StartTag) :
    frame.within setting (StartTag.scopes around) = frame.within setting around := by
  induction around with
  | nil => rfl
  | cons tag outer ih =>
    have hwithin : frame.within setting (tag :: outer) = (frame.within setting outer).inside setting tag := rfl
    rw [hwithin, ← ih, StartTag.scopes]
    cases htag : tag.isScope with
    | true =>
      rw [List.filter_cons_of_pos htag]
      rfl
    | false =>
      rw [List.filter_cons_of_neg (Bool.eq_false_iff.1 htag), inside_of_not_isScope setting _ htag]
      rfl

end Frame

namespace Stretch

theorem flatMap_addPiece (piece : String × List StartTag) {stretches : List Stretch} (h : stretches ≠ []) :
    (addPiece piece stretches).flatMap pieces = piece :: stretches.flatMap pieces := by
  cases stretches with
  | nil => exact absurd rfl h
  | cons stretch rest => rfl

/-- Each piece of the content of a text is in one stretch. -/
theorem flatMap_ofContent (around : List StartTag) (content : List MarkupEvent) :
    (ofContent around content).flatMap pieces = MarkupEvent.pieces around content := by
  induction content generalizing around with
  | nil => rfl
  | cons event rest ih =>
    cases event with
    | text data => rw [ofContent_text, flatMap_addPiece _ (ofContent_ne_nil around rest), ih]; rfl
    | startTag name attributes =>
      rw [ofContent_startTag, MarkupEvent.pieces, ← ih]
      split <;> rfl
    | endTag name =>
      rw [ofContent, MarkupEvent.pieces, ← ih]
      split <;> rfl

/-- The elements with a style around each piece of stretches are those around the end of its stretch, and those
    around the end of the first stretch are given. -/
structure AreSettled (around : List StartTag) (stretches : List Stretch) : Prop where
  first : ∀ stretch ∈ stretches.head?, StartTag.scopes stretch.around = StartTag.scopes around
  pieces : ∀ stretch ∈ stretches, ∀ piece ∈ stretch.pieces,
    StartTag.scopes piece.2 = StartTag.scopes stretch.around

theorem AreSettled.cons {outer : List StartTag} {stretches : List Stretch} (h : AreSettled outer stretches)
    (around : List StartTag) (begins : Option Attributes) : AreSettled around (⟨[], around, begins⟩ :: stretches) where
  first stretch hstretch := by
    obtain rfl := Option.some.inj hstretch
    rfl
  pieces := List.forall_mem_cons.2 ⟨nofun, h.pieces⟩

theorem AreSettled.addPiece {around : List StartTag} {stretches : List Stretch} (h : AreSettled around stretches)
    (data : String) : AreSettled around (addPiece (data, around) stretches) := by
  cases stretches with
  | nil => exact h
  | cons first rest =>
    obtain ⟨hpieces, hrest⟩ := List.forall_mem_cons.1 h.pieces
    have hfirst := h.first first rfl
    refine ⟨fun stretch hstretch => ?_, List.forall_mem_cons.2 ⟨List.forall_mem_cons.2 ⟨hfirst.symm, hpieces⟩, hrest⟩⟩
    obtain rfl := Option.some.inj hstretch
    exact hfirst

/-- Without groups in it, a text is settled. -/
theorem areSettled_ofContent {around : List StartTag} {content : List MarkupEvent}
    (haround : ∀ tag ∈ around, tag.kind ≠ .group) (hcontent : ∀ event ∈ content, event.opensGroup = false) :
    AreSettled around (ofContent around content) := by
  induction content generalizing around with
  | nil =>
    have hnone : AreSettled [] [] := ⟨fun _ => (nomatch ·), List.forall_mem_nil _⟩
    exact hnone.cons around none
  | cons event rest ih =>
    obtain ⟨hevent, hrest⟩ := List.forall_mem_cons.1 hcontent
    cases event with
    | text data =>
      rw [ofContent_text]
      exact (ih haround hrest).addPiece data
    | startTag name attributes =>
      let tag : StartTag := ⟨name, attributes⟩
      have hgroup : tag.kind ≠ .group := of_decide_eq_false hevent
      have hinner := ih (List.forall_mem_cons.2 ⟨hgroup, haround⟩) hrest
      rw [ofContent_startTag]
      by_cases hspan : tag.kind = .span
      · rw [if_pos hspan]
        exact hinner.cons around _
      · rw [if_neg hspan]
        exact ⟨StartTag.scopes_cons hspan hgroup around ▸ hinner.first, hinner.pieces⟩
    | endTag name =>
      have houter := ih (fun tag htag => haround tag (List.mem_of_mem_tail htag)) hrest
      cases around with
      | nil =>
        rw [ofContent]
        exact houter
      | cons tag around =>
        rw [ofContent_endTag]
        by_cases hspan : tag.kind = .span
        · rw [if_pos hspan]
          exact houter.cons (tag :: around) none
        · rw [if_neg hspan]
          have hgroup : tag.kind ≠ .group := haround tag List.mem_cons_self
          exact ⟨(StartTag.scopes_cons hspan hgroup around).symm ▸ houter.first, houter.pieces⟩

end Stretch

namespace Exact

/-- The content of a text with characters in an element that has a color of its own. -/
def colored (name : String) : List MarkupEvent :=
  [.startTag name ⟨[("fill", "#f00")]⟩, .text "ab", .endTag name]

end Exact

namespace Draw

variable {setting : Setting α} {embed : Option (Embedding α)} {drawing : Drawing α} {tag : StartTag}

/-- A text is laid out and painted in stretches between tags of its spans. The characters of a stretch share the
    frame at its end: the style that is current there, and whether it is hidden. That is the frame of their own
    innermost element where the same elements with styles are around them, and wherever a text has no groups. -/
theorem text_shares_frames {content : List MarkupEvent} (last : String) (hroot : drawing.document.rootSeen = true)
    (hdrawing : drawing.document.isDrawing = true) (hkind : tag.kind = .text)
    (htags : Tag.openAfter [] (MarkupEvent.tags content) = some [])
    (hcontent : ∀ event ∈ content, event.joinsText = true) :
    let base := drawing.document.frame.ofText setting tag.attributes
    let stretches := Stretch.ofContent [] content
    ∃ (after : Drawing α) (laid : List (Stretch × TextRun α)),
      events setting embed (.startTag tag.name tag.attributes :: (content ++ [.endTag last])) drawing =
          (.ok (), after) ∧
        stretches.flatMap Stretch.pieces = MarkupEvent.pieces [] content ∧
        (laid.map Prod.fst).Sublist stretches ∧
        LaysTo (laid.map fun (stretch, run) => (base.within setting stretch.around, run)) drawing after ∧
        ∀ stretch run, (stretch, run) ∈ laid →
          let frame := base.within setting stretch.around
          (∃ atStart atEnd x y, run = .ofStyle (visibleText stretch.text atStart atEnd) x y frame.style) ∧
            ∀ characters around, (characters, around) ∈ stretch.pieces →
              StartTag.scopes around = StartTag.scopes stretch.around ∨
                (∀ event ∈ content, event.opensGroup = false) →
              frame = base.within setting around := by
  intro base stretches
  obtain ⟨after, hdrawn, -, hlays⟩ := events_text setting embed last hroot hdrawing hkind htags hcontent
  refine ⟨after, _, hdrawn, Stretch.flatMap_ofContent [] content, Stretch.map_fst_typeset_sublist .., hlays,
    fun stretch run hrun => ?_⟩
  obtain ⟨hstretch, hstyle⟩ := Stretch.of_mem_typeset rfl hrun
  refine ⟨hstyle, fun characters around hpiece hcondition => ?_⟩
  have hscopes : StartTag.scopes around = StartTag.scopes stretch.around := by
    obtain hscopes | hgroups := hcondition
    · exact hscopes
    · exact (Stretch.areSettled_ofContent (List.forall_mem_nil _) hgroups).pieces stretch hstretch _ hpiece
  rw [← base.within_scopes setting around, hscopes, base.within_scopes]

/-- Each character of a text with a span has the frame of its innermost element. -/
theorem text_shares_frames_of_span :
    let drawing := (Draw.events Exact.setting none [Exact.root] (.initial Exact.setting {})).2
    let base := drawing.document.frame.ofText Exact.setting ⟨[]⟩
    ∃ (after : Drawing Rat) (laid : List (Stretch × TextRun Rat)),
      events Exact.setting none (.startTag "text" ⟨[]⟩ :: (Exact.colored "tspan" ++ [.endTag "text"])) drawing =
          (.ok (), after) ∧
        LaysTo (laid.map fun (stretch, run) => (base.within Exact.setting stretch.around, run)) drawing after ∧
        ∀ stretch run, (stretch, run) ∈ laid →
          ∀ characters around, (characters, around) ∈ stretch.pieces →
            base.within Exact.setting stretch.around = base.within Exact.setting around := by
  intro drawing base
  obtain ⟨after, laid, hdrawn, -, -, hlays, hlaid⟩ := @text_shares_frames Rat _ Exact.setting none drawing ⟨"text", ⟨[]⟩⟩
    (Exact.colored "tspan") "text" (by decide +kernel) (by decide +kernel) (by decide) (by decide) (by decide)
  exact ⟨after, laid, hdrawn, hlays, fun stretch run hrun characters around hpiece =>
    (hlaid stretch run hrun).2 characters around hpiece (.inr (by decide))⟩

/-- The characters of a link do not have its color. -/
theorem text_shares_frames_not_of_link :
    let drawing := (Draw.events Exact.setting none [Exact.root] (.initial Exact.setting {})).2
    let base := drawing.document.frame.ofText Exact.setting ⟨[]⟩
    let after := (Draw.events Exact.setting none
      (.startTag "text" ⟨[]⟩ :: (Exact.colored "a" ++ [.endTag "text"])) drawing).2
    (MarkupEvent.pieces [] (Exact.colored "a")).map
        (fun (characters, around) => (characters, (base.within Exact.setting around).style.text .fill)) =
          [("ab", "#f00")] ∧
      after.document.output.toList = drawing.document.output.toList ++
        [.save, .save, .restore, .fillColor (.rgb 0 0 0), .beginText, .font 16, .textPosition 0 100, .showText "ab",
          .endText, .restore] := by
  decide +kernel

end Draw

end SvgPage
