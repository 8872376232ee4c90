import SvgPage.Proofs.Traversal.Handles

namespace SvgPage

open Document

variable {α : Type} [Scalar α]

section Handles

variable {setting : Setting α} {document result : Document α} {event : MarkupEvent}
  {begun : Option Expansion}

/-- An event begins the expansion of a use, or leaves those that are being expanded as they are. -/
theorem Document.Handles.expanding_eq (h : Handles setting document event result begun) :
    result.expanding = begun.toList.map Expansion.id ++ document.expanding ∧
      result.replayDepth = begun.toList.length + document.replayDepth := by
  cases h with
  | text text =>
    have hstanding := document.addText_standing text
    exact ⟨congrArg Standing.expanding hstanding,
      (congrArg Standing.replayDepth hstanding).trans (Nat.zero_add _).symm⟩
  | endTag helements hends =>
    exact ⟨congrArg Standing.expanding hends.standing_eq,
      (congrArg Standing.replayDepth hends.standing_eq).trans (Nat.zero_add _).symm⟩
  | root frame hroot hname hsize hrest => exact ⟨rfl, (Nat.zero_add _).symm⟩
  | element hroot hrecords hopens hopening =>
    have hstanding := hopens.standing_eq.trans hrecords.standing_eq
    exact ⟨congrArg Standing.expanding hstanding,
      (congrArg Standing.replayDepth hstanding).trans (Nat.zero_add _).symm⟩
  | use hroot hrecords hopens =>
    have hexpanding := congrArg Standing.expanding hrecords.standing_eq
    have hreplay := congrArg Standing.replayDepth hrecords.standing_eq
    exact ⟨congrArg (_ :: ·) hexpanding, (congrArg (· + 1) hreplay).trans (Nat.add_comm _ _)⟩

/-- A use is not expanded inside its own expansion, nor deeper than the limit allows. -/
theorem Document.Handles.expands {expansion : Expansion}
    (h : Handles setting document event result (some expansion)) :
    expansion.id ∉ document.expanding ∧
      setting.options.nesting.isReached document.expanding.length = false := by
  cases h with
  | @use _ _ recording _ _ _ _ hroot hrecords hopens =>
    obtain ⟨-, hexpanding, hlimit, -⟩ := hopens.expansion_inv
    have hsame : recording.expanding = document.expanding :=
      congrArg Standing.expanding hrecords.standing_eq
    rw [hsame] at hexpanding hlimit
    exact ⟨hexpanding, hlimit⟩

theorem Document.Handles.rootSeen (h : Handles setting document event result begun)
    (hroot : document.rootSeen = true) : result.rootSeen = true := by
  cases h with
  | text text => exact (congrArg Standing.rootSeen (addText_standing document text)).trans hroot
  | endTag helements hends => exact (congrArg Standing.rootSeen hends.standing_eq).trans hroot
  | root frame hunseen hname hsize hrest => rfl
  | element hseen hrecords hopens hopening =>
    exact (congrArg Standing.rootSeen (hopens.standing_eq.trans hrecords.standing_eq)).trans hroot
  | use hseen hrecords hopens => exact (congrArg Standing.rootSeen hrecords.standing_eq).trans hroot

end Handles

namespace Stage

/-- The uses that are being expanded in a document are those of its stage, inside others that were being
    expanded before. -/
structure Counts (outer : List String) (depth : Nat) (stage : Stage α) : Prop where
  expanding : stage.document.expanding = stage.expansions.map Expansion.id ++ outer
  replayDepth : stage.document.replayDepth = stage.expansions.length + depth

variable {setting : Setting α} {stage next fetched : Stage α} {outer : List String} {depth : Nat}

omit [Scalar α] in
theorem fetch_standing {event : MarkupEvent} (h : stage.fetch = some (event, fetched)) :
    fetched.document.standing = stage.document.standing ∧
      fetched.expansions.map Expansion.id = stage.expansions.map Expansion.id := by
  obtain ⟨expansion, tag, rest, others, hexpansions, -, -, hdocument, hfetched, -⟩ |
    ⟨hexpansions, -, hdrawing, hfetched⟩ := fetch_eq_some h
  · rw [hdocument, hexpansions, hfetched]
    exact ⟨addText_standing _ _, rfl⟩
  · rw [document, hdrawing, hexpansions, hfetched]
    exact ⟨rfl, rfl⟩

theorem Counts.passes (hcounts : Counts outer depth stage) (h : Passes setting stage next) :
    Counts outer depth next := by
  obtain ⟨hexpanding, hreplay⟩ := hcounts
  cases h with
  | expanded hexpansions hrest hdocument hnext hevents =>
    rw [hexpansions] at hexpanding hreplay
    constructor
    · rw [hdocument, hnext]
      change stage.document.expanding.erase _ = _
      rw [hexpanding]
      simp only [List.map_cons, List.cons_append, List.erase_cons_head]
    · rw [hdocument, hnext]
      change stage.document.replayDepth - 1 = _
      rw [hreplay, List.length_cons]
      omega
  | @handled _ fetched _ hfetch hhandles hnext hevents =>
    obtain ⟨hstanding, hids⟩ := fetch_standing hfetch
    obtain ⟨hexpanding', hreplay'⟩ := hhandles.expanding_eq
    have hcount := congrArg List.length hids
    simp only [List.length_map] at hcount
    constructor
    · rw [hexpanding', hnext, List.map_append, hids, List.append_assoc, ← hexpanding]
      exact congrArg (_ ++ Standing.expanding ·) hstanding
    · have hdepth : fetched.document.replayDepth = stage.document.replayDepth :=
        congrArg Standing.replayDepth hstanding
      rw [hreplay', hnext, List.length_append, hcount, hdepth, hreplay, Nat.add_assoc]

/-- Once the root has been opened, there is no going back. -/
theorem Passes.rootSeen (h : Passes setting stage next) (hroot : stage.document.rootSeen = true) :
    next.document.rootSeen = true := by
  cases h with
  | expanded hexpansions hrest hdocument hnext hevents =>
    rw [hdocument]
    exact hroot
  | handled hfetch hhandles hnext hevents =>
    exact hhandles.rootSeen ((congrArg Standing.rootSeen (fetch_standing hfetch).1).trans hroot)

end Stage

end SvgPage
