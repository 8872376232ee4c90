import Mathlib.Data.List.Perm.Subperm
import SvgPage.Proofs.Traversal.Keeps

namespace SvgPage

open Document

variable {α : Type}

namespace Draw

/-- How many levels of uses there may still be when a start tag is handled, which may begin a definition as
    long as no use is expanded. -/
def neededLevels (setting : Setting α) (document : Document α) : Nat :=
  setting.options.nesting.levels.getD
    (document.definitions.size + if document.expanding.isEmpty then 1 else 0) - document.expanding.length

theorem neededLevels_le_useLevels (setting : Setting α) (document : Document α) :
    neededLevels setting document ≤ useLevels setting document := by
  rw [neededLevels, useLevels]
  cases setting.options.nesting.levels with
  | some levels => exact Nat.le_refl _
  | none =>
    rw [Option.getD_none, Option.getD_none]
    split <;> omega

theorem size_eq_of_names {first second : Document α}
    (h : first.definitions.names = second.definitions.names) :
    first.definitions.size = second.definitions.size := by
  have hlength := congrArg List.length h
  rwa [Table.names, Table.names, List.length_map, List.length_map] at hlength

/-- Inside an expansion one level less is needed. -/
theorem neededLevels_beginExpansion {setting : Setting α} {document recording : Document α}
    {name id : String} {attributes : Attributes} {recorded defines : Bool}
    (hregistered : document.Registered)
    (hrecords : Records document name attributes recording recorded defines)
    (hid : id ∉ recording.expanding) (hname : id ∈ recording.definitions.names)
    (hlimit : setting.options.nesting.isReached recording.expanding.length = false) :
    neededLevels setting (recording.beginExpansion id) + 1 ≤ neededLevels setting document := by
  have hkept := hrecords.keeps hregistered
  have hsub : id :: recording.expanding ⊆ recording.definitions.names :=
    List.cons_subset.2 ⟨hname, hkept.registered.expanding⟩
  have hroom := (List.subperm_of_subset (List.nodup_cons.2 ⟨hid, hkept.registered.nodup⟩) hsub).length_le
  rw [List.length_cons, Table.names, List.length_map] at hroom
  have hsize : recording.definitions.size ≤
      document.definitions.size + if document.expanding.isEmpty then 1 else 0 := by
    by_cases hexpanding : document.expanding = []
    · rw [hexpanding, List.isEmpty_nil, if_pos rfl]
      cases hrecords with
      | own leadingText hreplay hid => exact Table.size_set_le _ _ _
      | _ => exact Nat.le_succ _
    · rw [size_eq_of_names (hkept.names hexpanding)]
      exact Nat.le_add_right _ _
  have hbegun : (recording.beginExpansion id).expanding.length = document.expanding.length + 1 := by
    rw [← hkept.expanding]
    rfl
  rw [hkept.expanding] at hlimit hroom
  rw [neededLevels, neededLevels, hbegun]
  cases hlevels : setting.options.nesting.levels with
  | some levels =>
    rw [NestingLimit.isReached, hlevels, Option.any_some, decide_eq_false_iff_not] at hlimit
    rw [Option.getD_some, Option.getD_some]
    omega
  | none =>
    have hinside : (recording.beginExpansion id).expanding.isEmpty = false := rfl
    have hsame : (recording.beginExpansion id).definitions.size = recording.definitions.size := rfl
    rw [Option.getD_none, Option.getD_none, hinside, hsame, if_neg Bool.false_ne_true]
    rw [Table.size] at hsize ⊢
    omega

/-- No more levels are needed later on, as long as uses are expanded. -/
theorem neededLevels_of_keeps {setting : Setting α} {before after : Document α} (h : Keeps before after)
    (hexpanding : before.expanding ≠ []) : neededLevels setting after = neededLevels setting before := by
  rw [neededLevels, neededLevels, h.expanding, size_eq_of_names (h.names hexpanding)]

end Draw

namespace Stage

/-- The stage or the failure in which an action ends. -/
def outcome (expansions : List Expansion) (rest : List MarkupEvent)
    (result : Except (Failure α) Unit × Drawing α) : Outcome α :=
  match result with
  | (.ok (), drawing) => .ok ⟨drawing, expansions, rest⟩
  | (.error failure, drawing) => .error (failure, drawing.ledger)

variable [Scalar α] {setting : Setting α} {embed : Option (Embedding α)} {expansions others : List Expansion}
  {rest events : List MarkupEvent}

/-- Actions run one after the other if both do. -/
theorem runs_bind {first : Outcome α} {drawing : Drawing α} {action next : Draw α Unit}
    (haction : Runs setting embed first (outcome expansions rest (action drawing)))
    (hnext : ∀ after, action drawing = (.ok (), after) →
      Runs setting embed (.ok ⟨after, expansions, rest⟩) (outcome others events (next after))) :
    Runs setting embed first (outcome others events ((action >>= fun _ => next) drawing)) := by
  obtain ⟨⟨⟩, after, hresult, hbind⟩ | ⟨failure, after, hresult, hbind⟩ :=
    Draw.bind_cases action (fun _ => next) drawing
  · rw [hresult] at haction
    rw [hbind]
    exact haction.trans (hnext after hresult)
  · rw [hresult] at haction
    rw [hbind]
    exact haction

/-- What becomes of a stage leads to what an action yields. -/
def Simulates (setting : Setting α) (embed : Option (Embedding α)) (progress : Progress α)
    (expansions : List Expansion) (rest : List MarkupEvent)
    (result : Except (Failure α) Unit × Drawing α) : Prop :=
  ∃ first, progress.resolve embed = some first ∧
    Runs setting embed first (outcome expansions rest result)

theorem Simulates.runs {stage : Stage α} {result : Except (Failure α) Unit × Drawing α}
    (h : Simulates setting embed (stage.step setting) expansions rest result) :
    Runs setting embed (.ok stage) (outcome expansions rest result) := by
  obtain ⟨first, hfirst, hruns⟩ := h
  exact hruns.head (.step hfirst)

theorem advanceBy_simulates (stage : Stage α) (action : Draw α Unit) :
    Simulates setting embed (stage.advanceBy action) stage.expansions stage.rest (action stage.drawing) := by
  rw [advanceBy]
  cases haction : action stage.drawing with
  | mk result drawing =>
    cases result with
    | ok result => exact ⟨_, rfl, .refl⟩
    | error failure => exact ⟨_, rfl, .refl⟩

/-- The start tags in an expansion are handled one by one as well as all together, and so are its end tags
    and its text. -/
theorem replay_runs {start : StartHandler α} (levels : Nat)
    (hstart : ∀ name attributes drawing expansions rest, drawing.document.Registered →
      Draw.neededLevels setting drawing.document ≤ levels →
      Simulates setting embed (startTag setting ⟨drawing, expansions, rest⟩ name attributes) expansions rest
        (start name attributes drawing))
    (hkeeps : ∀ name attributes drawing, Draw.KeepsAt drawing (start name attributes))
    (expansion : Expansion) (expansions : List Expansion) (rest : List MarkupEvent)
    (tags : List DefinitionEvent) (drawing : Drawing α) (hregistered : drawing.document.Registered)
    (hexpanding : drawing.document.expanding ≠ [])
    (hlevels : Draw.neededLevels setting drawing.document ≤ levels) :
    Runs setting embed (.ok ⟨drawing, { expansion with rest := tags } :: expansions, rest⟩)
      (outcome ({ expansion with rest := [] } :: expansions) rest
        (Draw.replay setting start tags drawing)) := by
  induction tags generalizing drawing with
  | nil => exact .refl
  | cons tag tags ih =>
    let read : Drawing α := { drawing with document := drawing.document.addText tag.leadingText }
    have htext : Keeps drawing.document read.document := addText_keeps tag.leadingText hregistered
    have hlevels' : Draw.neededLevels setting read.document ≤ levels :=
      Draw.neededLevels_of_keeps htext hexpanding ▸ hlevels
    have hnext {action : Draw α Unit} (haction : Draw.KeepsAt read action) (after : Drawing α)
        (hresult : action read = (.ok (), after)) :
        Runs setting embed (.ok ⟨after, { expansion with rest := tags } :: expansions, rest⟩)
          (outcome ({ expansion with rest := [] } :: expansions) rest
            (Draw.replay setting start tags after)) := by
      have hafter := htext.trans (haction htext.registered)
      rw [hresult] at hafter
      exact ih after hafter.registered (hafter.expanding ▸ hexpanding)
        (Draw.neededLevels_of_keeps hafter hexpanding ▸ hlevels)
    cases tag with
    | startTag name attributes leadingText =>
      have hsimulates := hstart name attributes read ({ expansion with rest := tags } :: expansions) rest
        htext.registered hlevels'
      have hruns : Runs setting embed
          (.ok ⟨drawing, { expansion with rest := .startTag name attributes leadingText :: tags } :: expansions,
            rest⟩)
          (outcome ({ expansion with rest := tags } :: expansions) rest (start name attributes read)) :=
        Simulates.runs hsimulates
      have hjoined := runs_bind hruns (hnext (hkeeps name attributes read))
      exact hjoined
    | endTag name leadingText =>
      have hruns : Runs setting embed
          (.ok ⟨drawing, { expansion with rest := .endTag name leadingText :: tags } :: expansions, rest⟩)
          (outcome ({ expansion with rest := tags } :: expansions) rest (Draw.endTag setting name read)) :=
        Simulates.runs (advanceBy_simulates
          ⟨read, { expansion with rest := tags } :: expansions, rest⟩ (Draw.endTag setting name))
      have hjoined := runs_bind hruns (hnext (Draw.keepsAt_endTag read name))
      exact hjoined

/-- A use is open once the tags it is expanded to have been handled. -/
theorem expansion_runs {start : StartHandler α} {drawing : Drawing α} {id : String}
    {tags : List DefinitionEvent} {recorded defines : Bool} {first : Outcome α}
    (h : Runs setting embed first
      (outcome (⟨id, [], recorded, defines⟩ :: expansions) rest (Draw.replay setting start tags
        { drawing with document := drawing.document.beginExpansion id }))) :
    Runs setting embed first
      (outcome expansions rest
        ((Draw.carryOut setting embed (some start) (.expansion id tags) >>= fun closing =>
          Draw.change (·.push ⟨closing, recorded, defines⟩)) drawing)) := by
  cases hreplay : Draw.replay setting start tags
      { drawing with document := drawing.document.beginExpansion id } with
  | mk result after =>
    rw [hreplay] at h
    have hinside : Draw.whileExpanding id (Draw.replay setting start tags) drawing =
        (result, { after with document := after.document.endExpansion id }) := by
      simp only [Draw.whileExpanding, hreplay]
    cases result with
    | ok result =>
      have hcarried : Draw.carryOut setting embed (some start) (.expansion id tags) drawing =
          (.ok .nothing, { after with document := after.document.endExpansion id }) :=
        Draw.bind_ok hinside _
      rw [Draw.bind_ok hcarried]
      exact h.tail (.step rfl)
    | error failure =>
      have hcarried : Draw.carryOut setting embed (some start) (.expansion id tags) drawing =
          (.error failure, { after with document := after.document.endExpansion id }) :=
        Draw.bind_error hinside _
      rw [Draw.bind_error hcarried]
      exact h

/-- An image is open once the document it refers to has been drawn. -/
theorem embedding_simulates {start : Option (StartHandler α)} (drawing : Drawing α)
    (expansions : List Expansion) (rest : List MarkupEvent) (inner : Setting α) (markup : String)
    (recorded defines : Bool) :
    Simulates setting embed
      (.embedding inner markup ⟨drawing, expansions, rest⟩ ⟨.nothing, recorded, defines⟩) expansions rest
      ((Draw.carryOut setting embed start (.embedding inner markup) >>= fun closing =>
        Draw.change (·.push ⟨closing, recorded, defines⟩)) drawing) := by
  cases embed with
  | none => exact ⟨_, rfl, .refl⟩
  | some embed =>
    cases hembed : embed inner markup drawing.ledger with
    | mk result ledger =>
      cases result with
      | ok tree =>
        have hdrawn : Draw.embedDocument embed inner markup drawing =
            (.ok (), { drawing with ledger, embedded := drawing.embedded ++ [tree] }) := by
          simp only [Draw.embedDocument, hembed]
        have hcarried : Draw.carryOut setting (some embed) start (.embedding inner markup) drawing =
            (.ok .nothing, { drawing with ledger, embedded := drawing.embedded ++ [tree] }) :=
          Draw.bind_ok hdrawn _
        rw [Draw.bind_ok hcarried]
        refine ⟨_, ?_, .refl⟩
        simp only [Progress.resolve, hembed]
        rfl
      | error failure =>
        have hdrawn : Draw.embedDocument embed inner markup drawing =
            (.error failure, { drawing with ledger }) := by
          simp only [Draw.embedDocument, hembed]
        have hcarried : Draw.carryOut setting (some embed) start (.embedding inner markup) drawing =
            (.error failure, { drawing with ledger }) :=
          Draw.bind_error hdrawn _
        rw [Draw.bind_error hcarried]
        refine ⟨_, ?_, .refl⟩
        simp only [Progress.resolve, hembed]
        rfl

theorem startTagWith_simulates {start : Option (StartHandler α)} (levels : Nat)
    (hnone : start = none → levels = 0)
    (hstart : ∀ handler ∈ start, ∃ inner, levels = inner + 1 ∧
      (∀ name attributes drawing, Draw.KeepsAt drawing (handler name attributes)) ∧
      ∀ name attributes drawing expansions rest, drawing.document.Registered →
        Draw.neededLevels setting drawing.document ≤ inner →
        Simulates setting embed (startTag setting ⟨drawing, expansions, rest⟩ name attributes) expansions
          rest (handler name attributes drawing))
    (name : String) (attributes : Attributes) (drawing : Drawing α) (expansions : List Expansion)
    (rest : List MarkupEvent) (hregistered : drawing.document.Registered)
    (hlevels : Draw.neededLevels setting drawing.document ≤ levels) :
    Simulates setting embed (startTag setting ⟨drawing, expansions, rest⟩ name attributes) expansions rest
      (Draw.startTagWith setting embed start name attributes drawing) := by
  rw [Draw.startTagWith, Draw.document_bind, startTag]
  cases hroot : drawing.document.rootSeen with
  | false =>
    simp only [document, hroot, Bool.not_false, if_true, Bool.false_eq_true, if_false]
    exact advanceBy_simulates ⟨drawing, expansions, rest⟩ (Draw.openRoot setting name attributes)
  | true =>
    simp only [document, hroot, if_true, Bool.not_true, Bool.false_eq_true, if_false]
    have hbegun := beginTag_eq setting drawing.document name attributes drawing.ledger
    rw [Draw.bind_ok (Draw.update_apply _ drawing)]
    generalize drawing.document.beginTag setting name attributes drawing.ledger = result at hbegun ⊢
    obtain ⟨⟨document, ⟨opening, recorded, defines⟩⟩, ledger⟩ := result
    obtain ⟨recording, hrecords, hopens⟩ := hbegun
    cases opening with
    | element closing => exact ⟨_, rfl, .refl⟩
    | expansion id tags =>
      have hname := hopens.mem_names_of_expansion
      obtain ⟨rfl, hid, hlimit, -⟩ := hopens.expansion_inv
      have hkept := hrecords.keeps hregistered
      have hleft := Draw.neededLevels_beginExpansion hregistered hrecords hid hname hlimit
      cases start with
      | none =>
        have hzero := hnone rfl
        omega
      | some handler =>
        obtain ⟨inner, rfl, hkeeps, hsimulates⟩ := hstart handler rfl
        let begun : Drawing α := { drawing with document := document.beginExpansion id, ledger }
        have hruns := replay_runs inner hsimulates hkeeps ⟨id, tags, recorded, defines⟩ expansions rest tags
          begun (hkept.registered.beginExpansion hid hname) (List.cons_ne_nil _ _)
          (Nat.le_of_succ_le_succ (Nat.le_trans hleft hlevels))
        exact ⟨_, rfl, expansion_runs hruns⟩
    | embedding inner markup =>
      exact embedding_simulates { drawing with document, ledger } expansions rest inner markup recorded defines

/-- Handling a start tag with enough levels for its uses leads to what handling it step by step leads to. -/
theorem startTag_simulates (levels : Nat) (name : String) (attributes : Attributes) (drawing : Drawing α)
    (expansions : List Expansion) (rest : List MarkupEvent) (hregistered : drawing.document.Registered)
    (hlevels : Draw.neededLevels setting drawing.document ≤ levels) :
    Simulates setting embed (startTag setting ⟨drawing, expansions, rest⟩ name attributes) expansions rest
      (Draw.startTag setting embed levels name attributes drawing) := by
  induction levels generalizing name attributes drawing expansions rest with
  | zero =>
    exact startTagWith_simulates 0 (fun _ => rfl) (fun _ hnone => by cases hnone) name attributes drawing
      expansions rest hregistered hlevels
  | succ levels ih =>
    refine startTagWith_simulates (levels + 1) (fun hnone => by cases hnone) (fun handler hsome => ?_) name
      attributes drawing expansions rest hregistered hlevels
    cases hsome
    exact ⟨levels, rfl, Draw.keepsAt_startTag embed levels, ih⟩

theorem event_runs (event : MarkupEvent) (drawing : Drawing α) (rest : List MarkupEvent)
    (hregistered : drawing.document.Registered) :
    Runs setting embed (.ok ⟨drawing, [], event :: rest⟩)
      (outcome [] rest (Draw.event setting embed event drawing)) := by
  cases event with
  | startTag name attributes =>
    exact Simulates.runs (startTag_simulates (Draw.useLevels setting drawing.document) name attributes drawing
      [] rest hregistered (Draw.neededLevels_le_useLevels setting drawing.document))
  | endTag name =>
    exact Simulates.runs (advanceBy_simulates ⟨drawing, [], rest⟩ (Draw.endTag setting name))
  | text text => exact .single (.step rfl)

/-- Drawing events one after the other passes the stages between them. -/
theorem events_runs (before after : List MarkupEvent) (drawing : Drawing α)
    (hregistered : drawing.document.Registered) :
    Runs setting embed (.ok ⟨drawing, [], before ++ after⟩)
      (outcome [] after (Draw.events setting embed before drawing)) := by
  induction before generalizing drawing with
  | nil => exact .refl
  | cons event before ih =>
    apply runs_bind (event_runs event drawing (before ++ after) hregistered)
    intro next hnext
    have hkept : Keeps drawing.document (Draw.event setting embed event drawing).2.document :=
      Draw.keepsAt_event embed event drawing hregistered
    rw [hnext] at hkept
    exact ih next hkept.registered

end Stage

end SvgPage
