import SvgPage.Proofs.Exact
import SvgPage.Proofs.Traversal.Nesting
import SvgPage.Proofs.Traversal.Output
import SvgPage.Proofs.Traversal.Restores

namespace SvgPage

open Document

variable {α : Type}

/-- The attributes of the root are those of the first start tag. -/
theorem MarkupEvent.rootAttributes?_append {before after : List MarkupEvent} (h : tags before = [])
    (name : String) (attributes : Attributes) :
    rootAttributes? (before ++ .startTag name attributes :: after) = some attributes := by
  induction before with
  | nil => rfl
  | cons event before ih =>
    cases event with
    | startTag name attributes => cases h
    | endTag name => cases h
    | text text => exact ih h

namespace Stage

/-- Where a stage of a document is: some events have been handled, the elements they leave open are open, and
    the content of the innermost one has the scope that these elements call for. While a use is expanded,
    its element is not open, but others may be, in whose scope the elements around the use are kept. -/
inductive Placed (events : List MarkupEvent) (stage : Stage α) : Prop
  | direct (opened : NamedElements α) (consumed) (hexpansions : stage.expansions = [])
      (hevents : events = consumed ++ stage.rest)
      (hnames : Tag.openAfter [] (MarkupEvent.tags consumed) = some opened.names)
      (hroot : stage.document.rootSeen = !(MarkupEvent.tags consumed).isEmpty)
      (helements : stage.document.openElements = opened.elements)
      (hnests : opened.Nests stage.document.scope)
  | replayed (opened : NamedElements α) (name consumed) (base : Document α)
      (hexpansions : stage.expansions ≠ []) (hevents : events = consumed ++ stage.rest)
      (hnames : Tag.openAfter [] (MarkupEvent.tags consumed) = some (name :: opened.names))
      (hname : ElementKind.ofName name = .use) (hopened : opened ≠ [])
      (helements : base.openElements = opened.elements) (hnests : opened.Nests base.scope)
      (hwithin : Within base stage.document)

variable [Scalar α] {setting : Setting α} {events : List MarkupEvent} {stage next : Stage α}

theorem Placed.initial (setting : Setting α) (ledger : Ledger α) (events : List MarkupEvent) :
    Placed events (.initial setting ledger events) :=
  .direct [] [] rfl rfl rfl rfl rfl (.nil rfl rfl)

theorem Placed.expanded {expansion : Expansion} {outer : List Expansion} (h : Placed events stage)
    (hdocument : MarkupEvent.IsDocument events) (hnext : Sound [] [] [] 0 [] next)
    (hpasses : Passes setting stage next) (hexpansions : stage.expansions = expansion :: outer)
    (hresult : next.document = (stage.document.endExpansion expansion.id).push expansion.element)
    (houter : next.expansions = outer) (hrest : next.rest = stage.rest) : Placed events next := by
  cases h with
  | direct opened consumed hnone hevents hnames hroot helements hnests =>
    rw [hexpansions] at hnone
    cases hnone
  | replayed opened name consumed base hsome hevents hnames hname hopened helements hnests hwithin =>
    have hevents : events = consumed ++ next.rest := by rw [hevents, hrest]
    obtain ⟨above, habove, hunwind, -⟩ := hwithin.elements
    have hpushed : next.document.openElements = expansion.element :: above ++ base.openElements := by
      rw [hresult, List.cons_append, ← habove]
      rfl
    cases outer with
    | cons innermost others =>
      refine .replayed opened name consumed base ?_ hevents hnames hname hopened helements hnests
        (hpasses.within hwithin ⟨_, hpushed⟩)
      rw [houter]
      exact List.cons_ne_nil _ _
    | nil =>
      obtain ⟨hlength, -⟩ := hnext.layout.length_eq (hdocument.openAfter_rest hevents hnames)
      have hcount := hlength houter
      rw [hpushed, helements, List.length_append, List.length_cons, List.length_cons, NamedElements.names,
        NamedElements.elements, List.length_map, List.length_map] at hcount
      obtain rfl : above = [] := List.length_eq_zero_iff.1 (by omega)
      have hscope : next.document.scope = base.scope := by
        rw [hresult]
        exact hunwind
      have hseen : next.document.rootSeen = true := by
        rw [hresult]
        exact hwithin.rootSeen
      refine .direct ((name, expansion.element) :: opened) consumed houter hevents hnames ?_ ?_ ?_
      · rw [hseen, List.isEmpty_eq_false_iff.2 (Tag.ne_nil_of_openAfter hnames), Bool.not_false]
      · rw [hpushed, helements]
        rfl
      · rw [hscope]
        exact hnests.use hname _ _

/-- A tag of an expansion leaves the elements around the use as they are. -/
theorem Placed.inside (h : Placed events stage) (hdocument : MarkupEvent.IsDocument events)
    (hnext : Sound [] [] [] 0 [] next) (hpasses : Passes setting stage next)
    (hexpansions : stage.expansions ≠ []) (hexpanding : next.expansions ≠ [])
    (hrest : next.rest = stage.rest) : Placed events next := by
  cases h with
  | direct opened consumed hnone hevents hnames hroot helements hnests => exact absurd hnone hexpansions
  | replayed opened name consumed base _ hevents hnames hname hopened helements hnests hwithin =>
    have hevents : events = consumed ++ next.rest := by rw [hevents, hrest]
    obtain ⟨above, habove, -, -⟩ := hwithin.elements
    obtain ⟨-, hlength⟩ := hnext.layout.length_eq (hdocument.openAfter_rest hevents hnames)
    rw [List.length_cons, NamedElements.names, List.length_map] at hlength
    have hstays := hpasses.exists_append ⟨above, habove⟩ (by
      rw [helements, NamedElements.elements, List.length_map]
      omega)
    exact .replayed opened name consumed base hexpanding hevents hnames hname hopened helements hnests
      (hpasses.within hwithin hstays)

/-- A start tag of the document opens its element, or begins the expansion of a use inside the root. -/
theorem placed_startTag {name : String} {attributes : Attributes} {begun : Option Expansion}
    {opened : NamedElements α} {consumed : List MarkupEvent} (hdocument : MarkupEvent.IsDocument events)
    (hevents : events = consumed ++ .startTag name attributes :: next.rest)
    (hnames : Tag.openAfter [] (MarkupEvent.tags consumed) = some opened.names)
    (hroot : stage.document.rootSeen = !(MarkupEvent.tags consumed).isEmpty)
    (helements : stage.document.openElements = opened.elements) (hnests : opened.Nests stage.document.scope)
    (hhandles : Handles setting stage.document (.startTag name attributes) next.document begun)
    (hnext : next.expansions = begun.toList) : Placed events next := by
  have hsplit : events = (consumed ++ [.startTag name attributes]) ++ next.rest := by
    rw [hevents, List.append_assoc, List.singleton_append]
  have hopen : Tag.openAfter [] (MarkupEvent.tags (consumed ++ [.startTag name attributes])) =
      some (name :: opened.names) := by
    rw [MarkupEvent.tags_append, Tag.openAfter_append, hnames]
    rfl
  have hsome : (MarkupEvent.tags (consumed ++ [.startTag name attributes])).isEmpty = false :=
    List.isEmpty_eq_false_iff.2 (Tag.ne_nil_of_openAfter hopen)
  generalize hresult : next.document = result at hhandles
  cases hhandles with
  | root frame hunseen hname hsize hblock =>
    have hnone : MarkupEvent.tags consumed = [] := by
      rwa [hunseen, eq_comm, Bool.not_eq_false', List.isEmpty_iff] at hroot
    obtain rfl : opened = [] := by
      rw [hnone, Tag.openAfter, Option.some.injEq, eq_comm, NamedElements.names,
        List.map_eq_nil_iff] at hnames
      exact hnames
    refine .direct [(name, ⟨.scope stage.document.frame, false, false⟩)] _ hnext hsplit hopen ?_ ?_ ?_
    · rw [hsome, hresult]
      rfl
    · rw [hresult]
      exact congrArg (_ :: ·) helements
    · rw [hresult]
      exact hnests.root hname false false frame
  | @element _ _ recording recorded defines result opening hseen hrecords hopens hopening =>
    have hstanding := hopens.standing_eq.trans hrecords.standing_eq
    refine .direct ((name, ⟨opening.closing, recorded, defines⟩) :: opened) _ hnext hsplit hopen ?_ ?_ ?_
    · rw [hsome, hresult]
      exact (congrArg Standing.rootSeen hstanding).trans hseen
    · rw [hresult]
      exact congrArg (_ :: ·) ((congrArg Standing.openElements hstanding).trans helements)
    · rw [hresult]
      exact hopens.nests (hrecords.scope_eq ▸ hnests) _ _
  | use hseen hrecords hopens =>
    have hinside : opened ≠ [] := by
      rintro rfl
      have hstarted : MarkupEvent.tags consumed ≠ [] := by
        rintro hnone
        rw [hseen, hnone] at hroot
        cases hroot
      exact hdocument.openAfter_ne_nil hevents hstarted hnames
    have hstanding := hrecords.standing_eq
    refine .replayed opened name _ next.document ?_ hsplit hopen ?_ hinside ?_ ?_ (.refl ?_)
    · rw [hnext]
      exact List.cons_ne_nil _ _
    · exact hopens.kind_of_expansion
    · rw [hresult]
      exact (congrArg Standing.openElements hstanding).trans helements
    · rw [hresult]
      exact hrecords.scope_eq ▸ hnests
    · rw [hresult]
      exact (congrArg Standing.rootSeen hstanding).trans hseen

/-- An end tag of the document closes the innermost element, which has the same name. -/
theorem placed_endTag {name : String} {begun : Option Expansion} {opened : NamedElements α}
    {consumed : List MarkupEvent} (hdocument : MarkupEvent.IsDocument events)
    (hevents : events = consumed ++ .endTag name :: next.rest)
    (hnames : Tag.openAfter [] (MarkupEvent.tags consumed) = some opened.names)
    (hroot : stage.document.rootSeen = !(MarkupEvent.tags consumed).isEmpty)
    (helements : stage.document.openElements = opened.elements) (hnests : opened.Nests stage.document.scope)
    (hhandles : Handles setting stage.document (.endTag name) next.document begun)
    (hnext : next.expansions = begun.toList) : Placed events next := by
  have hsplit : events = (consumed ++ [.endTag name]) ++ next.rest := by
    rw [hevents, List.append_assoc, List.singleton_append]
  have hafter := hdocument.openAfter_rest hevents hnames
  generalize hresult : next.document = result at hhandles
  cases hhandles with
  | @endTag _ element outer _ hopen hends =>
    rw [helements] at hopen
    cases opened with
    | nil => cases hopen
    | cons innermost opened =>
      obtain ⟨innermostName, innermostElement⟩ := innermost
      obtain ⟨rfl, rfl⟩ := List.cons.inj hopen
      have hname : name = innermostName := by
        by_contra hname
        simp only [MarkupEvent.tags, List.filterMap_cons, MarkupEvent.tag?, NamedElements.names,
          List.map_cons, Tag.openAfter, if_neg hname] at hafter
        cases hafter
      subst hname
      refine .direct opened _ hnext hsplit ?_ ?_ ?_ ?_
      · rw [MarkupEvent.tags_append, Tag.openAfter_append, hnames]
        exact if_pos rfl
      · rw [MarkupEvent.isEmpty_tags_append_endTag, hresult]
        apply ((congrArg Standing.rootSeen hends.standing_eq).trans hroot).trans
        rw [List.isEmpty_eq_false_iff.2 (Tag.ne_nil_of_openAfter hnames)]
      · rw [hresult]
        exact congrArg Standing.openElements hends.standing_eq
      · rw [hresult, hends.scope_eq]
        exact hnests.pop

/-- An event of the document opens or closes an element at most. -/
theorem Placed.handled {event : MarkupEvent} {begun : Option Expansion} (h : Placed events stage)
    (hdocument : MarkupEvent.IsDocument events) (hexpansions : stage.expansions = [])
    (hrest : stage.rest = event :: next.rest)
    (hhandles : Handles setting stage.document event next.document begun)
    (hnext : next.expansions = begun.toList) : Placed events next := by
  cases h with
  | replayed opened name consumed base hsome hevents hnames hname hopened helements hnests hwithin =>
    exact absurd hexpansions hsome
  | direct opened consumed _ hevents hnames hroot helements hnests =>
    rw [hrest] at hevents
    cases event with
    | startTag name attributes =>
      exact placed_startTag hdocument hevents hnames hroot helements hnests hhandles hnext
    | endTag name => exact placed_endTag hdocument hevents hnames hroot helements hnests hhandles hnext
    | text text =>
      obtain ⟨hresult, rfl⟩ := hhandles.text_eq
      have hsplit : events = (consumed ++ [.text text]) ++ next.rest := by
        rw [hevents, List.append_assoc, List.singleton_append]
      refine .direct opened _ hnext hsplit ?_ ?_ ?_ ?_
      · rw [MarkupEvent.tags_append, Tag.openAfter_append, hnames]
        rfl
      · rw [hresult, MarkupEvent.tags_append, MarkupEvent.tags_text, List.append_nil]
        exact (congrArg Standing.rootSeen (addText_standing _ text)).trans hroot
      · rw [hresult]
        exact (congrArg Standing.openElements (addText_standing _ text)).trans helements
      · rw [hresult, addText_scope]
        exact hnests

omit [Scalar α] in
/-- Inside the expansion of a use the elements around the use are open. -/
theorem Placed.openElements_ne_nil (h : Placed events stage) (hexpansions : stage.expansions ≠ []) :
    stage.document.rootSeen = true ∧ stage.document.openElements ≠ [] := by
  cases h with
  | direct opened consumed hnone hevents hnames hroot helements hnests => exact absurd hnone hexpansions
  | replayed opened name consumed base hsome hevents hnames hname hopened helements hnests hwithin =>
    obtain ⟨above, habove, -, -⟩ := hwithin.elements
    refine ⟨hwithin.rootSeen, ?_⟩
    rw [habove, helements]
    exact List.append_ne_nil_of_right_ne_nil _ (List.map_eq_nil_iff.not.2 hopened)

omit [Scalar α] in
/-- The root of a well-formed document has been opened at its end. -/
theorem Placed.rootSeen (h : Placed events stage) (hdocument : MarkupEvent.IsDocument events)
    (hexpansions : stage.expansions = []) (hrest : stage.rest = []) : stage.document.rootSeen = true := by
  cases h with
  | replayed opened name consumed base hsome hevents hnames hname hopened helements hnests hwithin =>
    exact absurd hexpansions hsome
  | direct opened consumed hnone hevents hnames hroot helements hnests =>
    rw [hrest, List.append_nil] at hevents
    rw [hroot, ← hevents, List.isEmpty_eq_false_iff.2 hdocument.tags_ne_nil, Bool.not_false]

omit [Scalar α] in
/-- The first start tag is that of the root. All others are inside the root. -/
theorem Placed.startTag {fetched : Stage α} {name : String} {attributes : Attributes} (h : Placed events stage)
    (hdocument : MarkupEvent.IsDocument events)
    (hfetch : stage.fetch = some (.startTag name attributes, fetched)) :
    (stage.document.rootSeen = false → MarkupEvent.rootAttributes? events = some attributes) ∧
      (stage.document.rootSeen = true → stage.document.openElements ≠ []) := by
  cases h with
  | replayed opened _ consumed base hsome hevents hnames hname hopened helements hnests hwithin =>
    obtain ⟨hroot, hinside⟩ := Placed.openElements_ne_nil
      (.replayed opened _ consumed base hsome hevents hnames hname hopened helements hnests hwithin) hsome
    constructor
    · intro hunseen
      rw [hroot] at hunseen
      cases hunseen
    · intro hseen
      exact hinside
  | direct opened consumed hnone hevents hnames hroot helements hnests =>
    obtain ⟨expansion, tag, rest, outer, hexpansions, -⟩ | ⟨-, hrest, -, -⟩ := fetch_eq_some hfetch
    · rw [hexpansions] at hnone
      cases hnone
    rw [hrest] at hevents
    constructor
    · intro hunseen
      rw [hunseen, eq_comm, Bool.not_eq_false', List.isEmpty_iff] at hroot
      rw [hevents]
      exact MarkupEvent.rootAttributes?_append hroot name attributes
    · intro hseen
      rw [hseen, eq_comm, Bool.not_eq_true', List.isEmpty_eq_false_iff] at hroot
      rw [helements]
      intro hempty
      have hinside := hdocument.openAfter_ne_nil hevents hroot
      rw [NamedElements.elements, List.map_eq_nil_iff] at hempty
      rw [hempty] at hnames
      exact hinside hnames

theorem Placed.passes (h : Placed events stage) (hdocument : MarkupEvent.IsDocument events)
    (hsound : Sound [] [] [] 0 [] stage) (hpasses : Passes setting stage next) : Placed events next := by
  have hnext := hsound.passes hpasses
  cases hpasses with
  | expanded hexpansions hrest hresult houter hevents =>
    have hpasses : Passes setting stage next := .expanded hexpansions hrest hresult houter hevents
    exact h.expanded hdocument hnext hpasses hexpansions hresult houter hevents
  | handled hfetch hhandles hexpanding hevents =>
    have hpasses := Passes.handled hfetch hhandles hexpanding hevents
    obtain ⟨expansion, tag, rest, outer, hexpansions, -, -, -, hfetched, hrest⟩ |
      ⟨hexpansions, hrest, hdrawing, hfetched⟩ := fetch_eq_some hfetch
    · refine h.inside hdocument hnext hpasses ?_ ?_ (hevents.trans hrest)
      · rw [hexpansions]
        exact List.cons_ne_nil _ _
      · rw [hexpanding, hfetched]
        exact List.append_ne_nil_of_right_ne_nil _ (List.cons_ne_nil _ _)
    · rw [hfetched, List.append_nil] at hexpanding
      rw [document, hdrawing] at hhandles
      exact h.handled hdocument hexpansions (hevents ▸ hrest) hhandles hexpanding

theorem Passes.written (hpasses : Passes setting stage next) (h : Placed events stage)
    (hdocument : MarkupEvent.IsDocument events) (hwritten : Written setting events stage.document) :
    Written setting events next.document := by
  cases hpasses with
  | expanded hexpansions hrest hresult houter hevents =>
    obtain ⟨-, hinside⟩ := h.openElements_ne_nil (by
      rw [hexpansions]
      exact List.cons_ne_nil _ _)
    rw [hresult]
    exact hwritten.push hinside rfl rfl (List.append_nil _).symm .nil
  | @handled event fetched begun hfetch hhandles hexpanding hevents =>
    have hstanding := (fetch_standing hfetch).1
    have hseen : fetched.document.rootSeen = stage.document.rootSeen := congrArg Standing.rootSeen hstanding
    have hopen : fetched.document.openElements = stage.document.openElements :=
      congrArg Standing.openElements hstanding
    have hfetched : Written setting events fetched.document := by
      obtain hsame | ⟨text, htext⟩ := fetch_document hfetch
      · exact hsame ▸ hwritten
      · exact htext ▸ hwritten.addText text
    apply hfetched.handles hhandles
    · intro name attributes hevent hunseen
      exact (h.startTag hdocument (hevent ▸ hfetch)).1 (hseen ▸ hunseen)
    · intro name attributes hevent hroot
      rw [hopen]
      exact (h.startTag hdocument (hevent ▸ hfetch)).2 (hseen ▸ hroot)

/-- At every event of a well-formed document, what has been written so far is balanced: as many graphics
    states are saved as elements are open that have saved one, which is known from their kinds. -/
theorem balanced_of_events {embed : Option (Embedding α)} {before after : List MarkupEvent}
    {ledger : Ledger α} {drawing : Drawing α} (hdocument : MarkupEvent.IsDocument events)
    (hsplit : events = before ++ after)
    (h : Draw.events setting embed before (.initial setting ledger) = (.ok (), drawing)) :
    ∃ names, Tag.openAfter [] (MarkupEvent.tags before) = some names ∧
      Balanced setting events names.length (ElementKind.savedStates (names.map .ofName))
        drawing.document.output.toList := by
  have hruns : Runs setting embed (.ok (.initial setting ledger (before ++ after)))
      (.ok ⟨drawing, [], after⟩) :=
    runs_of_events_ok after (Registered.initial setting) h
  rw [← hsplit] at hruns
  obtain ⟨-, hplaced, hwritten⟩ := hruns.induction (P := fun stage =>
      Sound [] [] [] 0 [] stage ∧ Placed events stage ∧ Written setting events stage.document)
    ⟨.initial ledger hdocument.openAfter, .initial setting ledger events, .unopened rfl rfl rfl rfl⟩
    fun stage next ⟨hsound, hplaced, hwritten⟩ hpasses =>
      ⟨hsound.passes hpasses, hplaced.passes hdocument hsound hpasses,
        hpasses.written hplaced hdocument hwritten⟩
  cases hplaced with
  | replayed opened name consumed base hsome hevents hnames hname hopened helements hnests hwithin =>
    exact absurd rfl hsome
  | direct opened consumed hexpansions hevents hnames hroot helements hnests =>
    rw [hsplit] at hevents
    obtain rfl : before = consumed := List.append_cancel_right hevents
    refine ⟨opened.names, hnames, ?_⟩
    have hbalanced := hwritten.balanced
    rw [helements] at hbalanced
    have hcount : opened.elements.countP OpenElement.saves = _ := hnests.countP_saves
    rw [hcount, NamedElements.elements, List.length_map] at hbalanced
    rw [NamedElements.names, List.length_map]
    exact hbalanced

/-- After a group in it, the root is the only element whose graphics state is still saved. -/
theorem balanced_of_group :
    let drawing := (Draw.events Exact.setting none (Exact.root :: Exact.group) (.initial Exact.setting {})).2
    Balanced Exact.setting Exact.document 1 1 drawing.document.output.toList := by
  have hok : (Draw.events Exact.setting none (Exact.root :: Exact.group)
      (.initial Exact.setting {})).1.isOk = true := by
    decide +kernel
  have hsplit : Exact.document = Exact.root :: Exact.group ++ [.endTag "svg"] := rfl
  obtain ⟨names, hnames, hbalanced⟩ := balanced_of_events Exact.document_isDocument hsplit (Draw.eq_ok hok)
  obtain rfl : ["svg"] = names := Option.some.inj hnames
  exact hbalanced

end Stage

end SvgPage
