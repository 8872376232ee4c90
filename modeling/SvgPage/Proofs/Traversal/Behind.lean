import SvgPage.Proofs.Drawing.Adds
import SvgPage.Proofs.Traversal.Embeds
import SvgPage.Proofs.Traversal.Rules

namespace SvgPage

variable {α β γ : Type}

/-- A document where resources have been registered before. `earlier` counts them by their kind. -/
def Document.renumber (earlier : ResourceKind → Nat) (document : Document α) : Document α :=
  document.on (document.output.map (Operator.renumber earlier))

theorem Document.renumber_on (earlier : ResourceKind → Nat) (document : Document α) (output : Array (Operator α))
    (operators : List (Operator α)) :
    (document.on (output ++ operators)).renumber earlier =
      document.on (output.map (Operator.renumber earlier) ++ operators.map (Operator.renumber earlier)) := by
  refine congrArg document.on (Array.ext' ?_)
  simp only [on, Array.toList_map, Array.toList_appendList, List.map_append]

namespace DocumentTree

mutual

/-- A finished document where resources have been registered before. -/
def renumber (earlier : ResourceKind → Nat) : DocumentTree α → DocumentTree α
  | node setting document embedded => node setting (document.renumber earlier) (renumberAll earlier embedded)

def renumberAll (earlier : ResourceKind → Nat) : List (DocumentTree α) → List (DocumentTree α)
  | [] => []
  | tree :: rest => tree.renumber earlier :: renumberAll earlier rest

end

theorem renumberAll_append (earlier : ResourceKind → Nat) (first second : List (DocumentTree α)) :
    renumberAll earlier (first ++ second) = renumberAll earlier first ++ renumberAll earlier second := by
  induction first with
  | nil => rfl
  | cons tree rest ih => rw [List.cons_append, renumberAll, renumberAll, ih, List.cons_append]

theorem operatorsOfAll_append (first second : List (DocumentTree α)) :
    operatorsOfAll (first ++ second) = operatorsOfAll first ++ operatorsOfAll second := by
  induction first with
  | nil => rfl
  | cons tree rest ih => rw [List.cons_append, operatorsOfAll, operatorsOfAll, ih, List.append_assoc]

mutual

theorem operators_renumber (earlier : ResourceKind → Nat) (tree : DocumentTree α) :
    (tree.renumber earlier).operators = tree.operators.map (Operator.renumber earlier) := by
  cases tree with
  | node setting document embedded =>
    rw [renumber, operators, operators, operatorsOfAll_renumber earlier embedded, List.map_append]
    exact congrArg (· ++ _) Array.toList_map

theorem operatorsOfAll_renumber (earlier : ResourceKind → Nat) (trees : List (DocumentTree α)) :
    operatorsOfAll (renumberAll earlier trees) = (operatorsOfAll trees).map (Operator.renumber earlier) := by
  cases trees with
  | nil => rfl
  | cons tree rest =>
    rw [renumberAll, operatorsOfAll, operatorsOfAll, operators_renumber earlier tree,
      operatorsOfAll_renumber earlier rest, List.map_append]

end

end DocumentTree

namespace Drawing

/-- A drawing where something else has been drawn before. -/
def behind (earlier : Ledger α) (drawing : Drawing α) : Drawing α where
  ledger := earlier.append drawing.ledger
  document := drawing.document.renumber earlier.count
  embedded := DocumentTree.renumberAll earlier.count drawing.embedded

/-- What a drawing is rendered to. -/
def operators (drawing : Drawing α) : List (Operator α) :=
  drawing.document.output.toList ++ DocumentTree.operatorsOfAll drawing.embedded

/-- Each resource is named once. -/
def NamesAll (drawing : Drawing α) : Prop :=
  (drawing.operators.filterMap Operator.resource?).Perm (Resource.names drawing.ledger.resources.toList)

/-- What is written and embedded besides names what is registered besides. -/
theorem NamesAll.extend {drawing next : Drawing α} (h : drawing.NamesAll) {operators : List (Operator α)}
    {trees : List (DocumentTree α)}
    (houtput : next.document.output.toList = drawing.document.output.toList ++ operators)
    (hembedded : next.embedded = drawing.embedded ++ trees)
    (hledger : (Resource.names drawing.ledger.resources.toList ++
        (operators ++ DocumentTree.operatorsOfAll trees).filterMap Operator.resource?).Perm
      (Resource.names next.ledger.resources.toList)) : next.NamesAll := by
  rw [NamesAll, Drawing.operators] at h ⊢
  refine .trans ?_ ((h.append_right _).trans hledger)
  rw [houtput, hembedded, DocumentTree.operatorsOfAll_append]
  simp only [List.filterMap_append]
  simp only [List.append_assoc]
  exact .append_left _ (List.perm_append_comm_assoc ..)

/-- A drawing after one of its handlers, which has written what is on a sheet. -/
def add (drawing : Drawing α) (next : Document α) (sheet : Sheet α) : Drawing α where
  ledger := drawing.ledger.append sheet.added
  document := next.on (drawing.document.output ++ sheet.after drawing.ledger)
  embedded := drawing.embedded

/-- Nothing is written on an empty sheet. -/
theorem add_plain (drawing : Drawing α) (next : Document α) :
    drawing.add next (.plain [] .nil) = { drawing with document := next.on drawing.document.output } := by
  have hempty : (Sheet.plain [] .nil : Sheet α).added = {} := rfl
  simp only [add, Sheet.plain_after, hempty, Ledger.append_empty, Array.appendList_nil]

theorem add_behind (earlier : Ledger α) (drawing : Drawing α) (next : Document α) (sheet : Sheet α) :
    (drawing.behind earlier).add next sheet = (drawing.add next sheet).behind earlier := by
  simp only [add, behind, Document.renumber_on, Sheet.after_append, Ledger.append_assoc]
  rfl

theorem NamesAll.add {drawing : Drawing α} (h : drawing.NamesAll) (next : Document α) (sheet : Sheet α) :
    (drawing.add next sheet).NamesAll := by
  refine h.extend Array.toList_appendList (List.append_nil _).symm (.of_eq ?_)
  rw [DocumentTree.operatorsOfAll, List.append_nil]
  exact (sheet.names_append drawing.ledger).symm

theorem initial_behind [Scalar α] (setting : Setting α) (earlier ledger : Ledger α) :
    (initial setting ledger).behind earlier = initial setting (earlier.append ledger) := by
  simp only [behind, Document.renumber, initial, Document.initial, Array.map_empty]
  rfl

theorem namesAll_initial [Scalar α] (setting : Setting α) : (initial setting {}).NamesAll := .refl _

end Drawing

/-- An action does the same where something else has been drawn before, but for the numbers of resources, and if
    it does not fail it names each resource that it registers once. -/
structure Draw.Accounts (action : Draw α β) : Prop where
  behind : ∀ (earlier : Ledger α) (drawing : Drawing α), action (drawing.behind earlier) =
    ((action drawing).1, (action drawing).2.behind earlier)
  names : ∀ drawing result next, drawing.NamesAll → action drawing = (.ok result, next) → next.NamesAll

/-- The same of a way to draw embedded documents. -/
structure Embedding.Accounts (embed : Embedding α) : Prop where
  behind : ∀ setting markup (earlier ledger : Ledger α), embed setting markup (earlier.append ledger) =
    ((embed setting markup ledger).1.map (DocumentTree.renumber earlier.count),
      earlier.append (embed setting markup ledger).2)
  names : ∀ setting markup tree ledger, embed setting markup {} = (.ok tree, ledger) →
    (tree.operators.filterMap Operator.resource?).Perm (Resource.names ledger.resources.toList)

namespace Draw.Accounts

variable {action : Draw α β}

theorem pure (result : β) : Accounts (pure result : Draw α β) where
  behind _ _ := rfl
  names drawing result next hnames h := by
    cases h
    exact hnames

theorem throw (failure : Failure α) : Accounts (throw failure : Draw α β) where
  behind _ _ := rfl
  names drawing result next hnames h := by cases h

theorem bind {next : β → Draw α γ} (haction : Accounts action) (hnext : ∀ result, Accounts (next result)) :
    Accounts (action >>= next) where
  behind earlier drawing := by
    obtain ⟨result, after, hok, hbind⟩ | ⟨failure, after, herror, hbind⟩ := bind_cases action next drawing
    · have hbehind := haction.behind earlier drawing
      rw [hok] at hbehind
      rw [bind_ok hbehind, hbind, (hnext result).behind]
    · have hbehind := haction.behind earlier drawing
      rw [herror] at hbehind
      rw [bind_error hbehind, hbind]
  names drawing result last hnames h := by
    obtain ⟨middle, after, hok, hbind⟩ | ⟨failure, after, herror, hbind⟩ := bind_cases action next drawing
    · rw [hbind] at h
      exact (hnext middle).names after result last (haction.names drawing middle after hnames hok) h
    · rw [hbind] at h
      cases h

/-- An action may look at all of a document but what has been written for it. -/
theorem document_bind {next : Document α → Draw α β}
    (hsame : ∀ document output, next (Document.on document output) = next document)
    (hnext : ∀ document, Accounts (next document)) : Accounts (document >>= next) where
  behind earlier drawing := by
    rw [Draw.document_bind, Draw.document_bind, ← (hnext drawing.document).behind]
    exact congrFun (hsame drawing.document _) _
  names drawing := (hnext drawing.document).names drawing

/-- An action that writes what is on one sheet, whatever has been before. -/
theorem of_add (h : ∀ document, ∃ sheet next answer, ∀ output ledger embedded,
    action ⟨ledger, Document.on document output, embedded⟩ =
      (answer, Drawing.add ⟨ledger, document.on output, embedded⟩ next sheet)) : Accounts action := by
  constructor
  · intro earlier drawing
    obtain ⟨sheet, next, answer, hsheet⟩ := h drawing.document
    have hfirst : action drawing = (answer, drawing.add next sheet) := hsheet ..
    have hbehind : action (drawing.behind earlier) = (answer, (drawing.behind earlier).add next sheet) := hsheet ..
    rw [hfirst, hbehind, Drawing.add_behind]
  · intro drawing result last hnames hlast
    obtain ⟨sheet, next, answer, hsheet⟩ := h drawing.document
    have hfirst : action drawing = (answer, drawing.add next sheet) := hsheet ..
    rw [hfirst] at hlast
    cases hlast
    exact hnames.add next sheet

theorem update {handler : Document α → StateM (Ledger α) (Document α × β)}
    (h : ∀ document, AddsWith handler document) : Accounts (Draw.update handler) := by
  refine of_add fun document => ?_
  obtain ⟨sheet, next, result, hsheet⟩ := h document
  refine ⟨sheet, next, .ok result, fun output ledger embedded => ?_⟩
  rw [update_apply, hsheet]
  rfl

/-- A change of the document that does not depend on what has been written for it. -/
theorem change {change : Document α → Document α}
    (h : ∀ document output, change (Document.on document output) = (change document).on output) :
    Accounts (Draw.change change) := by
  have hupdate : Draw.change change = Draw.update fun document => Pure.pure (change document, ()) := rfl
  rw [hupdate]
  exact update fun document => .of_pure (change document) () fun output => by rw [h]

theorem characters (text : String) : Accounts (Draw.characters text : Draw α Unit) :=
  change fun document output => document.addText_on output text

theorem whileExpanding {action : Draw α Unit} (haction : Accounts action) (id : String) :
    Accounts (Draw.whileExpanding id action) where
  behind earlier drawing := by
    have hbehind := haction.behind earlier { drawing with document := drawing.document.beginExpansion id }
    exact congrArg (fun ran => (ran.1, { ran.2 with document := ran.2.document.endExpansion id })) hbehind
  names drawing result next hnames h := by
    cases hran : action { drawing with document := drawing.document.beginExpansion id } with
    | mk outcome after =>
      simp only [Draw.whileExpanding, hran] at h
      cases h
      exact haction.names { drawing with document := drawing.document.beginExpansion id } result after hnames hran

theorem embedDocument {embed : Embedding α} (hembed : embed.Accounts) (inner : Setting α) (markup : String) :
    Accounts (Draw.embedDocument embed inner markup) where
  behind earlier drawing := by
    have hbehind := hembed.behind inner markup earlier drawing.ledger
    cases hembedded : embed inner markup drawing.ledger with
    | mk result ledger =>
      rw [hembedded] at hbehind
      simp only [Draw.embedDocument, Drawing.behind, hembedded, hbehind]
      cases result with
      | error failure => rfl
      | ok tree =>
        simp only [Except.map, DocumentTree.renumberAll_append]
        rfl
  names drawing result next hnames h := by
    -- The document is drawn as if nothing had been registered before it.
    have hbehind := hembed.behind inner markup drawing.ledger {}
    rw [Ledger.append_empty] at hbehind
    cases hfresh : embed inner markup {} with
    | mk outcome added =>
      rw [hfresh] at hbehind
      simp only [Draw.embedDocument, hbehind] at h
      cases outcome with
      | error failure => cases h
      | ok tree =>
        cases h
        have hown := hembed.names inner markup tree added hfresh
        refine hnames.extend (List.append_nil _).symm rfl ?_
        simp only [DocumentTree.operatorsOfAll, List.append_nil, List.nil_append, DocumentTree.operators_renumber,
          filterMap_resource?_renumber, Ledger.append, Array.toList_append, Resource.names_append]
        exact (hown.map _).append_left _

variable [Scalar α]

theorem openRoot (setting : Setting α) (name : String) (attributes : Attributes) :
    Accounts (Draw.openRoot setting name attributes) := by
  refine of_add fun document => ?_
  by_cases hforeign : (ElementKind.ofName name != .svg) = true
  · refine ⟨.plain [] .nil, document, .error (.foreignRoot name), fun output ledger embedded => ?_⟩
    rw [Draw.openRoot, if_pos hforeign, Drawing.add_plain]
    rfl
  · obtain ⟨failure, hfailure⟩ | ⟨sheet, next, closing, hsheet⟩ :=
      Document.openRoot_adds setting { document with rootSeen := true } attributes
    · refine ⟨.plain [] .nil, { document with rootSeen := true }, .error failure, fun output ledger embedded => ?_⟩
      have hopened : ({ document.on output with rootSeen := true }.openRoot setting attributes).run ledger = _ :=
        hfailure output ledger
      simp only [Draw.openRoot, if_neg hforeign, hopened, Drawing.add_plain]
      rfl
    · refine ⟨sheet, next.push ⟨closing, false, false⟩, .ok (), fun output ledger embedded => ?_⟩
      have hopened : ({ document.on output with rootSeen := true }.openRoot setting attributes).run ledger = _ :=
        hsheet output ledger
      simp only [Draw.openRoot, if_neg hforeign, hopened]
      rfl

theorem rules (setting : Setting α) {embed : Option (Embedding α)} (hembed : ∀ embed' ∈ embed, embed'.Accounts) :
    Rules setting embed fun _ action => Accounts action where
  pure := pure
  throw := throw
  bind := bind
  document_bind := document_bind
  characters := characters
  push _ := change fun _ _ => rfl
  whileExpanding id haction := whileExpanding haction id
  embedDocument embed' hmem := embedDocument (hembed embed' hmem)
  openRoot := openRoot setting
  beginTag name attributes := update fun document => .beginTag setting document attributes name
  endElement element outer name := by
    refine update fun document => ?_
    have hended : Adds (fun document => Document.endElement setting { document with openElements := outer } element
        name) document := Adds.endElement setting { document with openElements := outer } element name
    exact .of_adds hended () fun _ => rfl

end Draw.Accounts

namespace Embedding.Accounts

variable [Scalar α]

/-- A document is drawn in the same way whatever has been drawn before. -/
theorem convertWith {embed : Option (Embedding α)} (hembed : ∀ embed' ∈ embed, embed'.Accounts) :
    Accounts (SvgPage.convertWith embed) where
  behind setting markup earlier ledger := by
    have hevents := (Draw.Accounts.rules setting hembed).events (Markup.read markup).events
    have hbehind := hevents.behind earlier (.initial setting ledger)
    rw [Drawing.initial_behind] at hbehind
    simp only [SvgPage.convertWith, hbehind]
    cases Draw.events setting embed (Markup.read markup).events (.initial setting ledger) with
    | mk result drawing =>
      cases result with
      | error failure => rfl
      | ok result => cases (Markup.read markup).errorLine <;> rfl
  names setting markup tree ledger h := by
    have hevents := (Draw.Accounts.rules setting hembed).events (Markup.read markup).events
    obtain ⟨drawing, hdrawn, -, rfl, rfl⟩ := convertWith_inv h
    exact hevents.names _ () drawing (Drawing.namesAll_initial setting) hdrawn

theorem convertNested (levels : Nat) : Accounts (SvgPage.convertNested levels : Embedding α) :=
  convertNested_induction (fun _ => convertWith) levels

theorem convertDocument : Accounts (SvgPage.convertDocument : Embedding α) where
  behind setting := (convertNested setting.options.nesting.documentLevels).behind setting
  names setting := (convertNested setting.options.nesting.documentLevels).names setting

end Embedding.Accounts

end SvgPage
