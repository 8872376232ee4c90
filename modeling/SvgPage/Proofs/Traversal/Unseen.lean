import SvgPage.Proofs.Traversal.Mirror
import SvgPage.Proofs.Traversal.Recorded

namespace SvgPage

open Document

variable {α : Type}

/-- What the end tag of an element undoes that holds definitions, or else does nothing. -/
def Closing.ofHolder : (holds : Bool) → Closing α
  | true => .definitions
  | false => .nothing

namespace Document

/-- A document inside an element more, which may hold definitions. -/
def hold (document : Document α) (holds : Bool) : Document α :=
  { document with definitionsDepth := document.definitionsDepth + holds.toNat }

/-- A document inside more elements, some of which hold definitions. -/
def within (document : Document α) : List Bool → Document α
  | [] => document
  | holds :: outer => ((document.within outer).hold holds).push ⟨.ofHolder holds, false, false⟩

theorem clip_within (document : Document α) (outer : List Bool) : (document.within outer).clip = document.clip := by
  induction outer with
  | nil => rfl
  | cons holds outer ih => exact ih

theorem definitionsDepth_le_within (document : Document α) (outer : List Bool) :
    document.definitionsDepth ≤ (document.within outer).definitionsDepth := by
  induction outer with
  | nil => exact Nat.le_refl _
  | cons holds outer ih => exact Nat.le_add_right_of_le ih

variable [Scalar α]

/-- Inside definitions elements do no more than to hold definitions. -/
theorem openElement_of_definitions (setting : Setting α) {document : Document α} (hclip : document.clip = none)
    (hdepth : 0 < document.definitionsDepth) {kind : ElementKind} (hkind : kind.isSelfContained = true)
    (attributes : Attributes) (ledger : Ledger α) :
    ∃ holds, document.openElement setting kind attributes ledger =
      ((document.hold holds, .element (.ofHolder holds)), ledger) := by
  cases kind with
  | use | gradient _ | stop | clipPath => cases hkind
  | defs | symbol =>
    refine ⟨true, ?_⟩
    simp only [openElement, hclip, pure_apply, hold, Bool.toNat_true, Closing.ofHolder]
  | _ =>
    refine ⟨false, ?_⟩
    simp only [openElement, hclip, hdepth, if_true]
    rfl

end Document

namespace Draw

theorem Mirrors.ok_bind {action next : Draw α Unit} {drawing behind : Drawing α}
    {result : Except (Failure α) Unit × Drawing α} (h : Mirrors (action drawing) (.ok (), behind))
    (hnext : ∀ after, after.Matches behind → Mirrors (next after) result) :
    Mirrors ((action >>= fun _ => next) drawing) result := by
  obtain ⟨⟨⟩, after, haction, hbind⟩ | ⟨failure, after, haction, hbind⟩ :=
    bind_cases action (fun _ => next) drawing
  · rw [haction] at h
    rw [hbind]
    exact hnext after h.2
  · rw [haction] at h
    cases h.1

variable [Scalar α] {setting : Setting α} {base drawing : Drawing α}

/-- A start tag that asks for nothing but an open element does not fail. -/
theorem startTag_of_element (embed : Option (Embedding α)) (levels : Nat) {name : String}
    {attributes : Attributes} {closing : Closing α} (hroot : drawing.document.rootSeen = true)
    (hopening : (drawing.document.beginTag setting name attributes drawing.ledger).1.2.opening =
      .element closing) :
    let begun := drawing.document.beginTag setting name attributes drawing.ledger
    startTag setting embed levels name attributes drawing =
      (.ok (), { drawing with
        document := begun.1.1.push ⟨closing, begun.1.2.recorded, begun.1.2.defines⟩
        ledger := begun.2 }) := by
  obtain ⟨start, hstart⟩ := exists_startTagWith setting embed levels
  rw [hstart, startTagWith_apply setting embed start name attributes hroot, hopening]
  rfl

/-- So a start tag does no more inside definitions. -/
theorem startTag_of_definitions {outer : List Bool} (embed : Option (Embedding α)) (levels : Nat)
    (hclip : base.document.clip = none) (hdepth : 0 < base.document.definitionsDepth) {name : String}
    (attributes : Attributes) (hname : (ElementKind.ofName name).isSelfContained = true)
    (h : drawing.Matches { base with document := base.document.within outer }) :
    ∃ holds, Mirrors (startTag setting embed levels name attributes drawing)
      (.ok (), { base with document := base.document.within (holds :: outer) }) := by
  have hinside := beginTag_plain setting drawing.document attributes drawing.ledger
    (ElementKind.ne_use_of_isSelfContained hname)
  have hnone : drawing.document.plain.clip = none :=
    (congrArg Document.clip h.plain).trans ((clip_within base.document outer).trans hclip)
  have hdeep : 0 < drawing.document.plain.definitionsDepth := by
    rw [h.plain]
    exact Nat.lt_of_lt_of_le hdepth (definitionsDepth_le_within base.document outer)
  obtain ⟨holds, hopened⟩ := openElement_of_definitions setting hnone hdeep hname attributes drawing.ledger
  obtain ⟨hresult, hledger⟩ := Prod.mk.inj (hopened.symm.trans hinside)
  obtain ⟨hplain, hopening⟩ := Prod.mk.inj hresult
  refine ⟨holds, ?_⟩
  rw [startTag_of_element embed levels h.rootSeen hopening.symm]
  refine ⟨rfl, ?_, hledger.symm.trans h.ledger, ?_, h.embedded⟩
  · exact (congrArg Document.rootSeen hplain).symm.trans h.rootSeen
  · rw [push_plain, ← hplain, h.plain]
    rfl

/-- Inside definitions nothing of what is drawn shows. -/
theorem events_of_definitions {events : List MarkupEvent} (embed : Option (Embedding α)) (outer : List Bool)
    (hclip : base.document.clip = none) (hdepth : 0 < base.document.definitionsDepth)
    (hkinds : ∀ name attributes, .startTag name attributes ∈ events →
      (ElementKind.ofName name).isSelfContained = true)
    (htags : Tag.depthAfter outer.length (MarkupEvent.tags events) = some 0)
    (h : drawing.Matches { base with document := base.document.within outer }) :
    Mirrors (Draw.events setting embed events drawing) (.ok (), base) := by
  induction events generalizing outer drawing with
  | nil =>
    cases outer with
    | nil => exact ⟨rfl, h⟩
    | cons holds outer => cases htags
  | cons event rest ih =>
    have hrest (name attributes) (hmem : .startTag name attributes ∈ rest) :=
      hkinds name attributes (List.mem_cons_of_mem _ hmem)
    cases event with
    | text text =>
      have hmode : (base.document.within outer).isDrawing = false := by
        have hdeep := Nat.lt_of_lt_of_le hdepth (definitionsDepth_le_within base.document outer)
        rw [isDrawing, beq_eq_false_iff_ne.2 (Nat.ne_of_gt hdeep), Bool.false_and]
      have hread : (base.document.within outer).readText text = (base.document.within outer).text := by
        rw [readText, hmode, if_neg Bool.false_ne_true]
      have hplain : ((base.document.within outer).addText text).plain = (base.document.within outer).plain := by
        rw [addText_plain_eq, hread]
        rfl
      exact ih _ hrest htags ((characters_mirrors h text).2.of_plain hplain.symm)
    | startTag name attributes =>
      have hname := hkinds name attributes List.mem_cons_self
      obtain ⟨holds, hstart⟩ := startTag_of_definitions embed (useLevels setting drawing.document) hclip hdepth
        attributes hname h
      exact Mirrors.ok_bind hstart fun after hafter => ih _ hrest htags hafter
    | endTag name =>
      cases outer with
      | nil => cases htags
      | cons holds outer =>
        have hend : Mirrors (endTag setting name drawing)
            (.ok (), { base with document := base.document.within outer }) := by
          have hmirrors := endTag_mirrors setting h name
          cases holds <;> exact hmirrors
        exact Mirrors.ok_bind hend fun after hafter => ih _ hrest htags hafter

end Draw

end SvgPage
