import SvgPage.Proofs.Drawing.Spares

namespace SvgPage

/-- What a document keeps under the ids of gradients and clip paths, those that are open, and how many ids have
    been made up. -/
structure Naming (α : Type) where
  gradients : Table (Gradient α)
  openGradient : Option String
  clipPaths : Table (List (ClipShape α))
  openClipPath : Option String
  generated : Table Nat

/-- Whether elements of a kind are kept under an id, which is made up if they have none. -/
def ElementKind.isNamed : ElementKind → Bool
  | gradient _ | clipPath => true
  | _ => false

variable {α : Type}

def Document.naming (document : Document α) : Naming α where
  gradients := document.gradients
  openGradient := document.openGradient
  clipPaths := document.clipPaths
  openClipPath := document.clip.map ClipCapture.id
  generated := document.generated

namespace Naming

variable {before after last : Naming α} {id : String}

/-- What an id stands for where a paint refers to it, and where a clip path is referred to by it. -/
def resolve (naming : Naming α) (id : String) : Option (Gradient α) × Option (List (ClipShape α)) :=
  (naming.gradients.get? id, naming.clipPaths.get? id)

/-- No gradient and no clip path with the id is open, to which stops or shapes might be added. -/
structure IsSettled (naming : Naming α) (id : String) : Prop where
  gradient : naming.openGradient ≠ some id
  clipPath : naming.openClipPath ≠ some id

/-- Ids are made up of what is common to elements of a kind and a number, which is counted from one. -/
def CountsFromOne (naming : Naming α) : Prop :=
  ∀ stem next, naming.generated.get? stem = some next → 1 ≤ next

/-- An id has been made up for an element without one. -/
def MadeUp (naming : Naming α) (id : String) : Prop :=
  ∃ stem next, naming.generated.get? stem = some next ∧
    ∃ number, 1 ≤ number ∧ number < next ∧ id = stem ++ toString number

/-- Another id may be made up, for elements with a stem. -/
inductive Counts (before after : Naming α) : Prop
  | same (h : after.generated = before.generated)
  | fresh (stem) (h : after.generated = (Document.freshId before.generated stem).2)

theorem CountsFromOne.one_le (h : before.CountsFromOne) (stem : String) :
    1 ≤ (before.generated.get? stem).getD 1 := by
  cases hnext : before.generated.get? stem with
  | none => exact Nat.le_refl 1
  | some next => exact h stem next hnext

theorem get?_freshId (generated : Table Nat) (stem other : String) :
    (Document.freshId generated stem).2.get? other =
      if other = stem then some ((generated.get? stem).getD 1 + 1) else generated.get? other :=
  Table.get?_set ..

theorem Counts.countsFromOne (h : before.Counts after) (hcounts : before.CountsFromOne) : after.CountsFromOne := by
  cases h with
  | same hsame =>
    rw [CountsFromOne, hsame]
    exact hcounts
  | fresh stem hfresh =>
    intro other next hnext
    rw [hfresh, get?_freshId] at hnext
    split at hnext
    · cases hnext
      exact Nat.succ_le_succ (Nat.zero_le _)
    · exact hcounts other next hnext

/-- What has been made up stays made up. -/
theorem Counts.madeUp (h : before.Counts after) (hmade : before.MadeUp id) : after.MadeUp id := by
  obtain ⟨stem, next, hnext, number, hone, hnumber, rfl⟩ := hmade
  cases h with
  | same hsame => exact ⟨stem, next, hsame ▸ hnext, number, hone, hnumber, rfl⟩
  | fresh other hfresh =>
    by_cases hstem : stem = other
    · subst hstem
      refine ⟨stem, next + 1, ?_, number, hone, Nat.lt_succ_of_lt hnumber, rfl⟩
      rw [hfresh, get?_freshId, if_pos rfl, hnext, Option.getD_some]
    · refine ⟨stem, next, ?_, number, hone, hnumber, rfl⟩
      rw [hfresh, get?_freshId, if_neg hstem, hnext]

/-- So is the id that is made up. -/
theorem CountsFromOne.madeUp_freshId (hcounts : before.CountsFromOne) {stem : String}
    (h : after.generated = (Document.freshId before.generated stem).2) :
    after.MadeUp (Document.freshId before.generated stem).1 := by
  refine ⟨stem, (before.generated.get? stem).getD 1 + 1, ?_, (before.generated.get? stem).getD 1,
    hcounts.one_le stem, Nat.lt_succ_self _, rfl⟩
  rw [h, get?_freshId, if_pos rfl]

/-- An id that is settled goes on to stand for the same. -/
structure Retains (id : String) (before after : Naming α) : Prop where
  resolve : after.resolve id = before.resolve id
  settled : after.IsSettled id

theorem Retains.trans (h : Retains id before after) (hnext : Retains id after last) : Retains id before last :=
  ⟨hnext.resolve.trans h.resolve, hnext.settled⟩

/-- All ids but one go on to stand for the same, and are settled if they were. -/
structure SparesOthers (entry : String) (before after : Naming α) : Prop where
  resolve : ∀ id, id ≠ entry → after.resolve id = before.resolve id
  settled : ∀ id, id ≠ entry → before.IsSettled id → after.IsSettled id

/-- What the start tag of a gradient or a clip path does: nothing inside a clip path, or else the element is kept
    under its own id, or under one that is made up if it has none. -/
inductive Enters (before : Naming α) (own : Option String) (after : Naming α) : Prop
  | ignored (h : after = before)
  | named {entry} (hown : own = some entry) (h : after.generated = before.generated)
      (hothers : SparesOthers entry before after)
  | unnamed (stem) (hown : own = none) (h : after.generated = (Document.freshId before.generated stem).2)
      (hothers : SparesOthers (Document.freshId before.generated stem).1 before after)

namespace Enters

variable {own : Option String}

theorem counts (h : before.Enters own after) : before.Counts after := by
  cases h with
  | ignored hsame => exact .same (congrArg Naming.generated hsame)
  | named hown hsame hothers => exact .same hsame
  | unnamed stem hown hfresh hothers => exact .fresh stem hfresh

/-- An id that is neither that of the element nor made up is left alone. -/
theorem spares (h : before.Enters own after) (hcounts : before.CountsFromOne) (hown : own ≠ some id)
    (hmade : ¬after.MadeUp id) :
    after.resolve id = before.resolve id ∧ (before.IsSettled id → after.IsSettled id) := by
  cases h with
  | ignored hsame =>
    rw [hsame]
    exact ⟨rfl, fun hsettled => hsettled⟩
  | @named entry hentry hsame hothers =>
    have hother : id ≠ entry := fun hid => hown (hid ▸ hentry)
    exact ⟨hothers.resolve id hother, hothers.settled id hother⟩
  | unnamed stem hnone hfresh hothers =>
    have hother : id ≠ (Document.freshId before.generated stem).1 :=
      fun hid => hmade (hid ▸ hcounts.madeUp_freshId hfresh)
    exact ⟨hothers.resolve id hother, hothers.settled id hother⟩

/-- An element without an id leaves all ids alone but one that is made up. -/
theorem spares_unnamed (h : before.Enters none after) (hcounts : before.CountsFromOne) :
    ∃ made : Option String, (∀ id ∈ made, after.MadeUp id) ∧ ∀ id ∉ made, after.resolve id = before.resolve id := by
  cases h with
  | ignored hsame =>
    rw [hsame]
    exact ⟨none, nofun, fun _ _ => rfl⟩
  | named hown hsame hothers => cases hown
  | unnamed stem hnone hfresh hothers =>
    refine ⟨some (Document.freshId before.generated stem).1, fun id hid => ?_, fun id hother => ?_⟩
    · cases hid
      exact hcounts.madeUp_freshId hfresh
    · exact hothers.resolve id fun hid => hother (congrArg some hid.symm)

end Enters

end Naming

namespace Document

open Naming

variable {setting : Setting α} {document result : Document α} {id : String}

theorem addText_naming (document : Document α) (text : String) :
    (document.addText text).naming = document.naming := by
  simp only [addText]
  split <;> split <;> rfl

theorem Records.naming_eq {name : String} {attributes : Attributes} {recorded defines : Bool}
    (h : Records document name attributes result recorded defines) : result.naming = document.naming := by
  cases h <;> rfl

theorem finishRecording_naming (document : Document α) : document.finishRecording.naming = document.naming := by
  rw [finishRecording]
  split <;> rfl

variable (id) in
/-- An end tag ends what is open at most. -/
theorem Ends.naming {element : OpenElement α} {name : String} (h : Ends document element name result) :
    result.naming.generated = document.naming.generated ∧
      (document.naming.IsSettled id → Retains id document.naming result.naming) := by
  obtain ⟨closed, hcloses, rfl⟩ := h
  have hrecorded : (if element.recorded then document.recordEnd name else document).naming = document.naming := by
    split <;> rfl
  have hfinished : (if element.defines then closed.finishRecording else closed).naming = closed.naming := by
    split
    · exact finishRecording_naming closed
    · rfl
  rw [hfinished, ← hrecorded]
  generalize (if element.recorded then document.recordEnd name else document) = recorded at hcloses
  generalize element.closing = closing at hcloses
  refine ⟨?_, fun hsettled => ?_⟩
  · cases hcloses <;> rfl
  · cases hcloses with
    | gradient => exact ⟨rfl, nofun, hsettled.clipPath⟩
    | clipPath => exact ⟨rfl, hsettled.gradient, nofun⟩
    | clipElement matrix =>
      refine ⟨rfl, hsettled.gradient, ?_⟩
      have hsame : (recorded.clip.map fun clip => { clip with matrix }).map ClipCapture.id =
          recorded.clip.map ClipCapture.id := by
        simp only [Option.map_map, Function.comp_def]
      exact fun hopen => hsettled.clipPath (hsame.symm.trans hopen)
    | _ => exact ⟨rfl, hsettled.gradient, hsettled.clipPath⟩

/-- What can be a part of a definition adds shapes to the clip path that is open at most. -/
theorem Spares.retains (h : document.Spares result) (hsettled : document.naming.IsSettled id) :
    Retains id document.naming result.naming := by
  have hgradients : result.gradients = document.gradients := congrArg Registry.gradients h.registry
  have hopen : result.openGradient = document.openGradient := congrArg Registry.openGradient h.registry
  have hclipPaths : result.clipPaths.get? id = document.clipPaths.get? id := by
    have hcollects := h.clipPaths
    rw [CollectsShapes] at hcollects
    split at hcollects
    · rw [hcollects]
    next capture hclip =>
      obtain ⟨shapes, hshapes⟩ := hcollects
      have hother : id ≠ capture.id := fun hid => hsettled.clipPath <| by
        rw [Document.naming, hclip, hid, Option.map_some]
      rw [hshapes, Table.get?_modify, if_neg hother]
  refine ⟨?_, ?_, ?_⟩
  · rw [resolve, resolve, Document.naming, Document.naming, hgradients, hclipPaths]
  · rw [Document.naming, hopen]
    exact hsettled.gradient
  · rw [Document.naming, h.clip]
    exact hsettled.clipPath

variable [Scalar α]

theorem openGradientElement_enters (document : Document α) (kind : GradientKind) (attributes : Attributes) :
    document.naming.Enters (attributes.get? "id") (document.openGradientElement kind attributes).naming := by
  have hothers (id : String) (generated : Table Nat) :
      SparesOthers id document.naming { document with
        generated
        gradients := document.gradients.set id (.ofAttributes id kind attributes)
        openGradient := some id }.naming := by
    refine ⟨fun other hother => ?_, fun other hother hsettled => ⟨?_, hsettled.clipPath⟩⟩
    · rw [resolve, resolve, naming, Table.get?_set, if_neg hother]
      rfl
    · exact fun hopen => hother (Option.some.inj hopen).symm
  cases hid : attributes.get? "id" with
  | some id =>
    simp only [openGradientElement, hid]
    exact .named rfl rfl (hothers id _)
  | none =>
    simp only [openGradientElement, hid]
    exact .unnamed _ rfl rfl (hothers _ _)

theorem openClipPath_enters (document : Document α) (attributes : Attributes) :
    document.naming.Enters (attributes.get? "id") (document.openClipPath attributes).naming := by
  have hothers (id : String) (generated : Table Nat) (matrix : Matrix α) :
      SparesOthers id document.naming { document with
        generated
        clipPaths := document.clipPaths.set id []
        clip := some ⟨id, matrix⟩ }.naming := by
    refine ⟨fun other hother => ?_, fun other hother hsettled => ⟨hsettled.gradient, ?_⟩⟩
    · rw [resolve, resolve, naming, Table.get?_set, if_neg hother]
      rfl
    · exact fun hopen => hother (Option.some.inj hopen).symm
  cases hid : attributes.get? "id" with
  | some id =>
    simp only [openClipPath, hid]
    exact .named rfl rfl (hothers id _ _)
  | none =>
    simp only [openClipPath, hid]
    exact .unnamed _ rfl rfl (hothers _ _ _)

theorem openElement_enters {kind : ElementKind} (hnamed : kind.isNamed = true) (setting : Setting α)
    (document : Document α) (attributes : Attributes) (ledger : Ledger α) :
    document.naming.Enters (attributes.get? "id")
      (document.openElement setting kind attributes ledger).1.1.naming := by
  cases kind with
  | gradient kind =>
    cases hclip : document.clip with
    | some clip =>
      simp only [openElement, hclip]
      exact .ignored rfl
    | none =>
      simp only [openElement, hclip]
      exact openGradientElement_enters document kind attributes
  | clipPath =>
    cases hclip : document.clip with
    | some clip =>
      simp only [openElement, hclip]
      exact .ignored rfl
    | none =>
      simp only [openElement, hclip]
      exact openClipPath_enters document attributes
  | _ => cases hnamed

/-- A stop is added to the gradient that is open, if there is one. -/
theorem addStop_modify (setting : Setting α) (document : Document α) (attributes : Attributes) :
    document.addStop setting attributes = document ∨
      ∃ entry stop, document.openGradient = some entry ∧ document.addStop setting attributes =
        { document with gradients := document.gradients.modify entry fun gradient =>
            { gradient with stops := gradient.stops ++ [stop] } } := by
  cases hopen : document.openGradient with
  | none =>
    left
    simp only [addStop, hopen]
  | some entry =>
    simp only [addStop, hopen]
    exact .inr ⟨entry, _, rfl, rfl⟩

theorem addStop_retains (setting : Setting α) (document : Document α) (attributes : Attributes) :
    let result := document.addStop setting attributes
    result.naming.generated = document.naming.generated ∧
      (document.naming.IsSettled id → Retains id document.naming result.naming) := by
  dsimp only
  obtain hsame | ⟨entry, stop, hopen, hadded⟩ := addStop_modify setting document attributes
  · rw [hsame]
    exact ⟨rfl, fun hsettled => ⟨rfl, hsettled⟩⟩
  · rw [hadded]
    refine ⟨rfl, fun hsettled => ⟨?_, hsettled.gradient, hsettled.clipPath⟩⟩
    have hother : id ≠ entry := fun hid => hsettled.gradient (hid ▸ hopen)
    rw [resolve, resolve, naming, Table.get?_modify, if_neg hother]
    rfl

theorem openElement_stop (setting : Setting α) (document : Document α) (attributes : Attributes) (ledger : Ledger α) :
    let result := (document.openElement setting .stop attributes ledger).1.1
    result.naming.generated = document.naming.generated ∧
      (document.naming.IsSettled id → Retains id document.naming result.naming) := by
  cases hclip : document.clip with
  | some clip =>
    simp only [openElement, hclip]
    exact ⟨rfl, fun hsettled => ⟨rfl, hsettled⟩⟩
  | none =>
    simp only [openElement, hclip]
    exact addStop_retains setting document attributes

variable (id) in
/-- The start tag of an element with another id, or without one, leaves alone what an id stands for. -/
theorem openElement_retains (setting : Setting α) (document : Document α) (kind : ElementKind)
    (attributes : Attributes) (ledger : Ledger α) :
    let result := (document.openElement setting kind attributes ledger).1.1
    document.naming.Counts result.naming ∧
      (document.naming.CountsFromOne → document.naming.IsSettled id → ¬result.naming.MadeUp id →
        (kind.isNamed = true → attributes.get? "id" ≠ some id) → Retains id document.naming result.naming) := by
  by_cases hnamed : kind.isNamed = true
  · have henters := openElement_enters hnamed setting document attributes ledger
    refine ⟨henters.counts, fun hcounts hsettled hmade hother => ?_⟩
    obtain ⟨hresolve, hkept⟩ := henters.spares hcounts (hother hnamed) hmade
    exact ⟨hresolve, hkept hsettled⟩
  · by_cases hrecorded : kind.isRecorded = true
    · have hspares := openElement_spares setting document hrecorded attributes ledger
      exact ⟨.same (congrArg Registry.generated hspares.registry), fun _ hsettled _ _ => hspares.retains hsettled⟩
    · have hstop : kind = .stop := by
        cases kind with
        | stop => rfl
        | gradient _ | clipPath => exact absurd rfl hnamed
        | _ => exact absurd rfl hrecorded
      rw [hstop]
      obtain ⟨hsame, hretains⟩ := openElement_stop setting document attributes ledger
      exact ⟨.same hsame, fun _ hsettled _ _ => hretains hsettled⟩

variable (id) in
/-- So does handling the tag as a whole. -/
theorem beginTag_retains (setting : Setting α) (document : Document α) (name : String) (attributes : Attributes)
    (ledger : Ledger α) :
    let result := (document.beginTag setting name attributes ledger).1.1
    document.naming.Counts result.naming ∧
      (document.naming.CountsFromOne → document.naming.IsSettled id → ¬result.naming.MadeUp id →
        ((ElementKind.ofName name).isNamed = true → attributes.get? "id" ≠ some id) →
        Retains id document.naming result.naming) := by
  have hrecords := recordStart_records document name attributes (.ofName name)
  have hopened := openElement_retains id setting (document.recordStart name attributes (.ofName name)).1
    (.ofName name) attributes ledger
  rw [hrecords.naming_eq] at hopened
  exact hopened

end Document

end SvgPage
