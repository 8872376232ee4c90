import SvgPage.Proofs.Markup.Rooted
import SvgPage.Proofs.Traversal.Conversion
import SvgPage.Proofs.Traversal.Shown

namespace SvgPage

open Document

variable {α : Type}

namespace DocumentTree

mutual

/-- A document and those embedded in it, in the order of their operators, with their settings. -/
def documents : DocumentTree α → List (Setting α × Document α)
  | node setting document embedded => (setting, document) :: documentsOfAll embedded

def documentsOfAll : List (DocumentTree α) → List (Setting α × Document α)
  | [] => []
  | tree :: rest => tree.documents ++ documentsOfAll rest

end

/-- The operators of documents, one document after the other. -/
def outputs (documents : List (Setting α × Document α)) : List (Operator α) :=
  documents.flatMap fun (_, document) => document.output.toList

mutual

/-- What a tree is rendered to are the outputs of its documents. -/
theorem operators_eq (tree : DocumentTree α) : tree.operators = outputs tree.documents := by
  cases tree with
  | node setting document embedded =>
    rw [operators, documents, outputs, List.flatMap_cons, operatorsOfAll_eq embedded]
    rfl

theorem operatorsOfAll_eq (trees : List (DocumentTree α)) :
    operatorsOfAll trees = outputs (documentsOfAll trees) := by
  cases trees with
  | nil => rfl
  | cons tree rest =>
    rw [operatorsOfAll, documentsOfAll, outputs, List.flatMap_append, operators_eq tree, operatorsOfAll_eq rest]
    rfl

end

theorem mem_documentsOfAll {entry : Setting α × Document α} {trees : List (DocumentTree α)} :
    entry ∈ documentsOfAll trees ↔ ∃ tree ∈ trees, entry ∈ tree.documents := by
  induction trees with
  | nil => simp [documentsOfAll]
  | cons tree rest ih => simp [documentsOfAll, ih]

end DocumentTree

variable [Scalar α]

/-- What a document has written begins with the map to its place, once its root is open. -/
def Document.Begins (setting : Setting α) (document : Document α) : Prop :=
  if document.rootSeen then
    [.save] ++ setting.placement.matrix.operators setting.pageHeight <+: document.output.toList
  else
    document.output.toList = []

namespace Document.Begins

variable {setting : Setting α} {document result : Document α}

theorem initial (setting : Setting α) : (Document.initial setting).Begins setting := rfl

theorem of_root (hroot : document.rootSeen = true)
    (hmore : [.save] ++ setting.placement.matrix.operators setting.pageHeight <+: document.output.toList) :
    document.Begins setting := by
  rwa [Begins, if_pos hroot]

theorem append (h : document.Begins setting) (hseen : document.rootSeen = true)
    (hroot : result.rootSeen = document.rootSeen) {operators : List (Operator α)}
    (houtput : result.output.toList = document.output.toList ++ operators) : result.Begins setting := by
  rw [Begins, if_pos hseen] at h
  rw [Begins, hroot, if_pos hseen, houtput]
  exact h.trans (List.prefix_append _ _)

theorem of_eq (h : document.Begins setting) (hroot : result.rootSeen = document.rootSeen)
    (houtput : result.output = document.output) : result.Begins setting := by
  rw [Begins, hroot, houtput]
  exact h

/-- Nothing is written before the root, which begins with the map. -/
theorem handles {event : MarkupEvent} {begun : Option Expansion} (h : document.Begins setting)
    (hhandles : Handles setting document event result begun)
    (hinside : document.openElements ≠ [] → document.rootSeen = true) : result.Begins setting := by
  cases hhandles with
  | text text =>
    exact h.of_eq (congrArg Standing.rootSeen (addText_standing document text)) (addText_output document text)
  | endTag helements hends =>
    obtain ⟨operators, -, houtput⟩ := hends.output_eq
    have hseen := hinside (helements ▸ List.cons_ne_nil _ _)
    exact h.append hseen (congrArg Standing.rootSeen hends.standing_eq) houtput
  | root frame hroot hname hsize hrest =>
    rw [Begins, if_neg (Bool.eq_false_iff.1 hroot)] at h
    refine .of_root rfl ?_
    change _ <+: (document.write _).output.toList
    rw [write_output, h, List.nil_append, List.append_assoc]
    exact List.prefix_append _ _
  | element hroot hrecords hopens hopening =>
    obtain ⟨operators, houtput, -⟩ := hopens.output_eq
    rw [hrecords.output_eq] at houtput
    have hstanding := hopens.standing_eq.trans hrecords.standing_eq
    exact h.append hroot (congrArg Standing.rootSeen hstanding) houtput
  | use hroot hrecords hopens =>
    exact h.of_eq (congrArg Standing.rootSeen hrecords.standing_eq) hrecords.output_eq

end Document.Begins

namespace Stage

variable {setting : Setting α} {stage next : Stage α} {canvas : Canvas α}

theorem Passes.begins (h : Passes setting stage next) (hshown : Shown setting stage canvas)
    (hbegins : stage.document.Begins setting) : next.document.Begins setting := by
  cases h with
  | expanded hexpansions hrest hdocument hnext hevents =>
    rw [hdocument]
    exact hbegins.of_eq rfl rfl
  | @handled event fetched begun hfetch hhandles hnext hevents =>
    have hstanding := (fetch_standing hfetch).1
    have hroot : fetched.document.rootSeen = stage.document.rootSeen := congrArg Standing.rootSeen hstanding
    have helements : fetched.document.openElements = stage.document.openElements :=
      congrArg Standing.openElements hstanding
    have hfetched := hbegins.of_eq hroot (fetch_frame hfetch).2.2
    refine hfetched.handles hhandles fun hinside => ?_
    rw [helements] at hinside
    rw [hroot]
    cases hshown.layered with
    | outside hnone hinitial => exact absurd hnone hinside
    | inside hseen hlayers => exact hseen

end Stage

/-- A finished document, which a reader reads from the beginning of a page to the beginning of a page, with
    the map to its place first. -/
structure Document.Rests (resources : List (Resource α)) (setting : Setting α) (document : Document α) : Prop where
  begins : [.save] ++ setting.placement.matrix.operators setting.pageHeight <+: document.output.toList
  reads : Canvas.initial.readAll resources document.output.toList = some .initial

theorem Document.Rests.of_isPrefix {resources others : List (Resource α)} {setting : Setting α}
    {document : Document α} (h : document.Rests resources setting) (hmore : resources <+: others) :
    document.Rests others setting :=
  ⟨h.begins, Canvas.readAll_of_isPrefix hmore h.reads⟩

/-- All documents of a tree are finished. -/
def DocumentTree.Rests (resources : List (Resource α)) (tree : DocumentTree α) : Prop :=
  ∀ setting document, (setting, document) ∈ tree.documents → document.Rests resources setting

/-- A way to draw embedded documents that finishes them. -/
def Embedding.Finishes (embed : Embedding α) : Prop :=
  ∀ setting markup ledger tree after, embed setting markup ledger = (.ok tree, after) →
    tree.Rests after.resources.toList ∧ ∃ document embedded, tree = .node setting document embedded

namespace Stage

variable {setting inner : Setting α} {embed : Option (Embedding α)} {stage next waiting : Stage α}
  {markup : String} {element : OpenElement α} {events : List MarkupEvent}

/-- A document is embedded by the start tag of an element in the root. -/
theorem step_embedding_inv (h : stage.step setting = .embedding inner markup waiting element) :
    ∃ name attributes fetched, stage.fetch = some (.startTag name attributes, fetched) ∧
      (fetched.document.beginTag setting name attributes fetched.drawing.ledger).1.2.opening =
        .embedding inner markup ∧
      waiting.drawing.embedded = stage.drawing.embedded := by
  rw [step] at h
  split at h
  next event fetched hfetch =>
    have hembedded := (fetch_drawing hfetch).2
    cases event with
    | startTag name attributes =>
      rw [handle, startTag] at h
      split at h
      · refine ⟨name, attributes, fetched, hfetch, ?_⟩
        generalize fetched.document.beginTag setting name attributes fetched.drawing.ledger = begun at h ⊢
        obtain ⟨⟨document, ⟨opening, recorded, defines⟩⟩, ledger⟩ := begun
        cases opening with
        | element closing => cases h
        | expansion id tags => cases h
        | embedding begun text =>
          cases h
          exact ⟨rfl, hembedded⟩
      · rw [advanceBy] at h
        split at h <;> cases h
    | endTag name =>
      rw [handle, advanceBy] at h
      split at h <;> cases h
    | text text => cases h
  · split at h <;> cases h

theorem openRoot_embedded {name : String} {attributes : Attributes} {drawing after : Drawing α}
    (h : Draw.openRoot setting name attributes drawing = (.ok (), after)) :
    after.embedded = drawing.embedded := by
  rw [Draw.openRoot] at h
  split at h
  · cases h
  · dsimp only at h
    split at h
    · cases h
    · cases h
      rfl

theorem step_next_embedded (h : stage.step setting = .next next) :
    next.drawing.embedded = stage.drawing.embedded := by
  rw [step] at h
  split at h
  next event fetched hfetch =>
    rw [← (fetch_drawing hfetch).2]
    cases event with
    | startTag name attributes =>
      rw [handle, startTag] at h
      split at h
      · generalize fetched.document.beginTag setting name attributes fetched.drawing.ledger = begun at h
        obtain ⟨⟨document, ⟨opening, recorded, defines⟩⟩, ledger⟩ := begun
        cases opening with
        | element closing =>
          cases h
          rfl
        | expansion id tags =>
          cases h
          rfl
        | embedding begun text => cases h
      · rw [advanceBy] at h
        split at h
        next hopened =>
          cases h
          exact openRoot_embedded hopened
        · cases h
    | endTag name =>
      cases helements : fetched.drawing.document.openElements with
      | nil =>
        rw [handle, advanceBy, Draw.endTag_nil setting name helements] at h
        cases h
      | cons innermost outer =>
        rw [handle, advanceBy, Draw.endTag_cons setting name helements] at h
        cases h
        rfl
    | text text =>
      cases h
      rfl
  · split at h
    · cases h
      rfl
    · cases h

/-- The documents embedded so far stay, and a step embeds one at most. -/
theorem step_embedded (h : (stage.step setting).resolve embed = some (.ok next)) :
    next.drawing.embedded = stage.drawing.embedded ∨
      ∃ inner markup waiting element embed' tree,
        stage.step setting = .embedding inner markup waiting element ∧ embed' ∈ embed ∧
        embed' inner markup waiting.drawing.ledger = (.ok tree, next.drawing.ledger) ∧
        next.drawing.embedded = stage.drawing.embedded ++ [tree] := by
  cases hstep : stage.step setting with
  | next stage =>
    rw [hstep] at h
    cases h
    exact .inl (step_next_embedded hstep)
  | embedding inner markup waiting element =>
    obtain ⟨-, -, -, -, -, hembedded⟩ := step_embedding_inv hstep
    rw [hstep] at h
    cases embed with
    | none =>
      cases h
      exact .inl hembedded
    | some embed =>
      simp only [Progress.resolve] at h
      split at h
      next tree ledger hdrawn =>
        cases h
        exact .inr ⟨inner, markup, waiting, element, embed, tree, rfl, rfl, hdrawn,
          congrArg (· ++ [tree]) hembedded⟩
      · cases h
  | failed failure ledger =>
    rw [hstep] at h
    cases h
  | ended =>
    rw [hstep] at h
    cases h

/-- What holds of the documents at a stage: those that are embedded are finished, and what has been written
    of the one that is being drawn begins with the map to its place. -/
structure Composed (setting : Setting α) (stage : Stage α) : Prop where
  begins : stage.document.Begins setting
  embedded : ∀ tree ∈ stage.drawing.embedded, tree.Rests stage.resources

theorem Composed.step {canvas : Canvas α} (h : Composed setting stage) (hshown : Shown setting stage canvas)
    (hextends : ∀ embed' ∈ embed, embed'.Extends) (hfinishes : ∀ embed' ∈ embed, embed'.Finishes)
    (hstep : (stage.step setting).resolve embed = some (.ok next)) : Composed setting next := by
  have hgrown : stage.resources <+: next.resources := step_extends hextends hstep
  have hkept (tree : DocumentTree α) (htree : tree ∈ stage.drawing.embedded) : tree.Rests next.resources :=
    fun inner document hentry => (h.embedded tree htree inner document hentry).of_isPrefix hgrown
  refine ⟨(step_passes hstep).begins hshown h.begins, ?_⟩
  obtain hsame | ⟨inner, markup, waiting, element, embed', tree, -, hembed, hdrawn, hembedded⟩ :=
    step_embedded hstep
  · rw [hsame]
    exact hkept
  · rw [hembedded]
    exact List.forall_mem_append.2 ⟨hkept, List.forall_mem_singleton.2
      (hfinishes embed' hembed inner markup _ tree _ hdrawn).1⟩

variable [Scalar.Comparable α]

theorem Reached.composed (h : Reached setting embed events stage) (hextends : ∀ embed' ∈ embed, embed'.Extends)
    (hfinishes : ∀ embed' ∈ embed, embed'.Finishes) (hdocument : MarkupEvent.IsDocument events) :
    Composed setting stage := by
  obtain ⟨ledger, hruns⟩ := h
  have hall : Reached setting embed events stage ∧ Composed setting stage := by
    refine hruns.induction_step
      (P := fun stage => Reached setting embed events stage ∧ Composed setting stage)
      ⟨⟨ledger, .refl⟩, .initial setting, List.forall_mem_nil _⟩
      fun stage next ⟨hreached, hcomposed⟩ hstep => ?_
    obtain ⟨-, canvas, hshown⟩ := hreached.shown hextends hdocument
    obtain ⟨ledger, hbefore⟩ := hreached
    exact ⟨⟨ledger, hbefore.tail (.step hstep)⟩, hcomposed.step hshown hextends hfinishes hstep⟩
  exact hall.2

/-- At the end of a document it is finished, and so are those embedded in it. -/
theorem Reached.rests (h : Reached setting embed events stage) (hextends : ∀ embed' ∈ embed, embed'.Extends)
    (hfinishes : ∀ embed' ∈ embed, embed'.Finishes) (hdocument : MarkupEvent.IsDocument events)
    (hexpansions : stage.expansions = []) (hrest : stage.rest = []) :
    DocumentTree.Rests stage.resources (.node setting stage.document stage.drawing.embedded) := by
  obtain ⟨hplaced, canvas, hshown⟩ := h.shown hextends hdocument
  have hcomposed := h.composed hextends hfinishes hdocument
  have helements := ((h.sound hdocument.openAfter).layout.finish hexpansions hrest).1
  have hseen := hplaced.rootSeen hdocument hexpansions hrest
  have hreads := hshown.canvas_eq
  have hbegins := hcomposed.begins
  rw [Begins, if_pos hseen] at hbegins
  have hinitial : canvas = .initial := by
    cases hshown.layered with
    | outside hnone hinitial => rfl
    | inside hroot hlayers =>
      rw [helements] at hlayers
      cases hlayers
  rw [hinitial] at hreads
  intro inner document hentry
  rw [DocumentTree.documents, List.mem_cons] at hentry
  obtain hown | hembedded := hentry
  · cases hown
    exact ⟨hbegins, hreads⟩
  · obtain ⟨tree, htree, hentry⟩ := DocumentTree.mem_documentsOfAll.1 hembedded
    exact hcomposed.embedded tree htree inner document hentry

end Stage

section Conversion

variable [Scalar.Comparable α]

theorem convertWith_finishes {embed : Option (Embedding α)} (hextends : ∀ embed' ∈ embed, embed'.Extends)
    (hfinishes : ∀ embed' ∈ embed, embed'.Finishes) : (convertWith embed).Finishes := by
  intro setting markup ledger tree after h
  obtain ⟨drawing, hdrawn, hwhole, rfl, rfl⟩ := convertWith_inv h
  have hreached : Stage.Reached setting embed ((Markup.read markup).events ++ []) ⟨drawing, [], []⟩ :=
    .of_events hdrawn
  rw [List.append_nil] at hreached
  exact ⟨hreached.rests hextends hfinishes (Markup.read_isDocument hwhole) rfl rfl, _, _, rfl⟩

/-- All documents embedded in a document are finished. -/
theorem nested_finishes (levels : Nat) : ∀ embed ∈ (Embedding.nested levels : Option (Embedding α)),
    embed.Finishes := by
  have hboth : ∀ embed ∈ (Embedding.nested levels : Option (Embedding α)), embed.Extends ∧ embed.Finishes := by
    refine nested_induction (fun embed hembed => ?_) levels
    have hextends := fun inner hmem => (hembed inner hmem).1
    exact ⟨convertWith_extends hextends, convertWith_finishes hextends fun inner hmem => (hembed inner hmem).2⟩
  exact fun embed hmem => (hboth embed hmem).2

end Conversion

end SvgPage
