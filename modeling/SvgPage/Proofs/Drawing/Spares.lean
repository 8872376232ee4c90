import SvgPage.Proofs.Drawing.Records
import SvgPage.Proofs.Table

namespace SvgPage

/-- What a document keeps under names for elements to come, apart from clip paths. -/
structure Registry (α : Type) where
  definitions : Table Definition
  recordings : List Recording
  recordedText : String
  gradients : Table (Gradient α)
  openGradient : Option String
  generated : Table Nat

namespace Closing

/-- Whether the end tag of an element ends a gradient or a clip path. -/
def endsEntry {α : Type} : Closing α → Bool
  | gradient | clipPath => true
  | _ => false

end Closing

/-- An element that is not recorded, and is neither a gradient nor a clip path. -/
structure OpenElement.IsReplayed {α : Type} (element : OpenElement α) : Prop where
  recorded : element.recorded = false
  defines : element.defines = false
  closing : element.closing.endsEntry = false

namespace Document

variable {α : Type}

def registry (document : Document α) : Registry α where
  definitions := document.definitions
  recordings := document.recordings
  recordedText := document.recordedText
  gradients := document.gradients
  openGradient := document.openGradient
  generated := document.generated

/-- The clip paths change by shapes that are added to the one that is open, if there is one. -/
def CollectsShapes (before after : Document α) : Prop :=
  match before.clip with
  | none => after.clipPaths = before.clipPaths
  | some capture => ∃ shapes, after.clipPaths = before.clipPaths.modify capture.id (· ++ shapes)

/-- Whatever is kept under names is spared, but for shapes of the clip path that is open. -/
structure Spares (before after : Document α) : Prop where
  rootSeen : after.rootSeen = before.rootSeen
  replayDepth : after.replayDepth = before.replayDepth
  registry : after.registry = before.registry
  clip : after.clip.map ClipCapture.id = before.clip.map ClipCapture.id
  clipPaths : before.CollectsShapes after

namespace CollectsShapes

variable {first second third : Document α}

theorem of_eq (h : second.clipPaths = first.clipPaths) : first.CollectsShapes second := by
  rw [CollectsShapes]
  split
  · exact h
  · refine ⟨[], h.trans ?_⟩
    simp only [List.append_nil, Table.modify_id]

/-- Shapes are added behind those that have been added. -/
theorem trans (h : first.CollectsShapes second) (hnext : second.CollectsShapes third)
    (hclip : second.clip.map ClipCapture.id = first.clip.map ClipCapture.id) : first.CollectsShapes third := by
  rw [CollectsShapes] at h hnext ⊢
  cases hfirst : first.clip with
  | none =>
    rw [hfirst, Option.map_none, Option.map_eq_none_iff] at hclip
    rw [hfirst] at h
    rw [hclip] at hnext
    exact hnext.trans h
  | some capture =>
    rw [hfirst, Option.map_some, Option.map_eq_some_iff] at hclip
    obtain ⟨later, hlater, hid⟩ := hclip
    rw [hfirst] at h
    rw [hlater] at hnext
    obtain ⟨shapes, hshapes⟩ := h
    obtain ⟨more, hmore⟩ := hnext
    refine ⟨shapes ++ more, ?_⟩
    rw [hmore, hshapes, hid, Table.modify_modify]
    simp only [List.append_assoc]

end CollectsShapes

namespace Spares

variable {first second third : Document α}

@[refl] theorem refl (document : Document α) : document.Spares document := ⟨rfl, rfl, rfl, rfl, .of_eq rfl⟩

@[trans] theorem trans (h : first.Spares second) (hnext : second.Spares third) : first.Spares third where
  rootSeen := hnext.rootSeen.trans h.rootSeen
  replayDepth := hnext.replayDepth.trans h.replayDepth
  registry := hnext.registry.trans h.registry
  clip := hnext.clip.trans h.clip
  clipPaths := h.clipPaths.trans hnext.clipPaths h.clip

theorem definitions (h : first.Spares second) : second.definitions = first.definitions :=
  congrArg Registry.definitions h.registry

end Spares

section Handlers

variable {setting : Setting α} {document result : Document α}

/-- No characters are recorded while uses are expanded. -/
theorem addText_spares (hreplay : 0 < document.replayDepth) (text : String) :
    document.Spares (document.addText text) := by
  have hnone : (!document.recordings.isEmpty && document.replayDepth == 0 && document.clip.isNone) = false := by
    rw [beq_eq_false_iff_ne.2 (Nat.ne_of_gt hreplay), Bool.and_false, Bool.false_and]
  simp only [addText, hnone, Bool.false_eq_true, if_false]
  split
  · exact ⟨rfl, rfl, rfl, rfl, .of_eq rfl⟩
  · exact .refl document

/-- What can be a part of a definition enters nothing under a name but shapes. -/
theorem Opens.registry_eq {kind : ElementKind} {opening : Opening α} (h : Opens setting document kind result opening)
    (hkind : kind.isRecorded = true) : result.registry = document.registry := by
  cases h with
  | stop | gradient | clipPath => cases hkind
  | _ => rfl

theorem Opens.endsEntry_closing {kind : ElementKind} {opening : Opening α}
    (h : Opens setting document kind result opening) (hkind : kind.isRecorded = true) :
    opening.closing.endsEntry = false := by
  cases h with
  | gradient | clipPath => cases hkind
  | _ => rfl

theorem Closes.spares {closing : Closing α} (h : Closes document closing result)
    (hclosing : closing.endsEntry = false) : document.Spares result := by
  cases h with
  | gradient | clipPath => cases hclosing
  | clipElement matrix =>
    refine ⟨rfl, rfl, rfl, ?_, .of_eq rfl⟩
    simp only [Option.map_map, Function.comp_def]
  | _ => exact ⟨rfl, rfl, rfl, rfl, .of_eq rfl⟩

theorem Ends.spares {element : OpenElement α} {name : String} (h : Ends document element name result)
    (helement : element.IsReplayed) : document.Spares result := by
  obtain ⟨closed, hcloses, rfl⟩ := h
  rw [helement.recorded] at hcloses
  rw [helement.defines]
  exact hcloses.spares helement.closing

variable [Scalar α]

theorem openClipElement_collectsShapes {clip : ClipCapture α} (hclip : document.clip = some clip)
    (setting : Setting α) (kind : ElementKind) (attributes : Attributes) :
    let kept := (document.openClipElement setting clip kind attributes).1
    kept.clip.map ClipCapture.id = document.clip.map ClipCapture.id ∧ document.CollectsShapes kept := by
  have hsame (matrix : Matrix α) : some clip.id = document.clip.map ClipCapture.id := by
    rw [hclip, Option.map_some]
  cases kind with
  | shape shape =>
    simp only [openClipElement]
    split
    next path hpath =>
      refine ⟨hsame clip.matrix, ?_⟩
      rw [CollectsShapes, hclip]
      exact ⟨_, rfl⟩
    · exact ⟨hsame clip.matrix, .of_eq rfl⟩
  | _ => exact ⟨hsame clip.matrix, .of_eq rfl⟩

theorem openElement_spares (setting : Setting α) (document : Document α) {kind : ElementKind}
    (hkind : kind.isRecorded = true) (attributes : Attributes) (ledger : Ledger α) :
    document.Spares (document.openElement setting kind attributes ledger).1.1 := by
  have hopens := openElement_opens setting document attributes ledger kind
  have hstanding := hopens.standing_eq
  have hregistry := hopens.registry_eq hkind
  have hcollects :
      let result := (document.openElement setting kind attributes ledger).1.1
      result.clip.map ClipCapture.id = document.clip.map ClipCapture.id ∧ document.CollectsShapes result := by
    cases hclip : document.clip with
    | some clip =>
      have hkept := openClipElement_collectsShapes hclip setting kind attributes
      rw [hclip] at hkept
      simp only [openElement, hclip]
      cases kind with
      | gradient _ | stop | clipPath => cases hkind
      | use => exact ⟨congrArg (Option.map ClipCapture.id) hclip, .of_eq rfl⟩
      | _ => exact hkept
    | none =>
      dsimp only at hopens ⊢
      generalize (document.openElement setting kind attributes ledger).1 = result at hopens
      obtain ⟨result, opening⟩ := result
      rw [← hclip]
      cases hopens with
      | clipElement clipPaths matrix hsome =>
        rw [hclip] at hsome
        cases hsome
      | clipPath | gradient | stop => cases hkind
      | _ => exact ⟨rfl, .of_eq rfl⟩
  exact ⟨congrArg Standing.rootSeen hstanding, congrArg Standing.replayDepth hstanding, hregistry, hcollects.1,
    hcollects.2⟩

/-- A use stands for a complete definition, the first tag of which is merged with its own. -/
theorem openUse_expansion {attributes : Attributes} {ledger : Ledger α} {id : String}
    {tags : List DefinitionEvent} (h : (document.openUse setting attributes ledger).1 = .expansion id tags) :
    ∃ name own leadingText rest, document.definitions.get? id =
        some (.complete (.startTag name own leadingText :: rest)) ∧
      tags = .startTag (Use.merge α name own attributes).1 (Use.merge α name own attributes).2 "" :: rest := by
  cases hfound : document.findUse? attributes with
  | none =>
    simp only [openUse, hfound] at h
    cases h
  | some found =>
    obtain ⟨other, definition⟩ := found
    cases definition with
    | pending =>
      simp only [openUse, hfound] at h
      cases h
    | complete events =>
      have hget : document.definitions.get? other = some (.complete events) := by
        obtain ⟨key, -, hkey⟩ := Option.bind_eq_some_iff.1 hfound
        obtain ⟨value, hvalue, hsame⟩ := Option.bind_eq_some_iff.1 hkey
        cases hsame
        exact hvalue
      simp only [openUse, hfound] at h
      split at h
      · cases h
      · split at h
        · cases h
        · split at h
          · cases h
            exact ⟨_, _, _, _, hget, rfl⟩
          · cases h

/-- Whatever is expanded, a use asks for it. -/
theorem openElement_expansion {kind : ElementKind} {attributes : Attributes} {ledger : Ledger α} {id : String}
    {tags : List DefinitionEvent}
    (h : (document.openElement setting kind attributes ledger).1.2 = .expansion id tags) :
    (document.openElement setting kind attributes ledger).1.1 = document ∧
      (document.openUse setting attributes ledger).1 = .expansion id tags := by
  have hopens := openElement_opens setting document attributes ledger kind
  dsimp only at hopens
  rw [h] at hopens
  refine ⟨hopens.expansion_inv.1, ?_⟩
  obtain rfl := hopens.kind_of_expansion
  cases hclip : document.clip with
  | some clip =>
    simp only [openElement, hclip] at h
    exact h
  | none =>
    simp only [openElement, hclip] at h
    split at h
    · cases h
    · exact h

end Handlers

end Document

end SvgPage
