import SvgPage.Proofs.Drawing.Tracks
import SvgPage.Proofs.Traversal.Uses

namespace SvgPage

open Document

theorem DefinitionEvent.IsElement.depthAfter {tags : List DefinitionEvent} (h : IsElement tags) :
    Tag.depthAfter 0 (tags.map DefinitionEvent.tag) = some 0 := by
  obtain ⟨name, attributes, leadingText, content, lastText, rfl, hcontent⟩ := h
  have hinside := Tag.openAfter_append_names hcontent [name]
  have htags : Tag.openAfter [] ((DefinitionEvent.startTag name attributes leadingText ::
      (content ++ [.endTag name lastText])).map DefinitionEvent.tag) = some [] := by
    rw [List.map_cons, List.map_append, DefinitionEvent.tag, Tag.openAfter, Tag.openAfter_append]
    simp only [List.nil_append] at hinside
    rw [hinside, Option.bind_some, List.map_singleton, DefinitionEvent.tag, Tag.openAfter, if_pos rfl,
      Tag.openAfter]
  exact Tag.depthAfter_of_openAfter htags

/-- Every complete definition is one element. -/
def HoldsElements (definitions : Table Definition) : Prop :=
  ∀ id tags, definitions.get? id = some (.complete tags) → DefinitionEvent.IsElement tags

theorem HoldsElements.set_pending {definitions : Table Definition} (h : HoldsElements definitions)
    (id : String) : HoldsElements (definitions.set id .pending) := by
  intro other tags hget
  rw [Table.get?_set] at hget
  split at hget
  · cases hget
  · exact h other tags hget

theorem Document.Defines.holdsElements {before after : Table Definition} (h : Defines before after)
    (hbefore : HoldsElements before) : HoldsElements after := by
  cases h with
  | same h => rwa [h]
  | complete id htags h =>
    intro other tags hget
    rw [h, Table.get?_set] at hget
    split at hget
    · cases hget
      exact htags
    · exact hbefore other tags hget

variable {α : Type}

theorem Document.Records.holdsElements {document result : Document α} {name : String}
    {attributes : Attributes} {recorded defines : Bool}
    (h : Records document name attributes result recorded defines)
    (hdefinitions : HoldsElements document.definitions) : HoldsElements result.definitions := by
  cases h with
  | own leadingText hreplay hid => exact hdefinitions.set_pending _
  | _ => exact hdefinitions

/-- The elements that are open inside expanded uses, on top of others. In each expansion, the tags still to
    come close what it has opened, and the use inside it whose element is not open yet. What an expansion
    opens is not recorded, and so are all uses but the outermost one. -/
inductive Nested (ground : List (OpenElement α)) (recorded defines : Bool) :
    (waiting : Nat) → List Expansion → List (OpenElement α) → Prop
  | outermost {waiting id rest opened}
      (hopened : ∀ element ∈ opened, element.recorded = false ∧ element.defines = false)
      (hdepth : Tag.depthAfter (waiting + opened.length) (rest.map DefinitionEvent.tag) = some 0) :
      Nested ground recorded defines waiting [⟨id, rest, recorded, defines⟩] (opened ++ ground)
  | inner {waiting id rest opened outer elements}
      (hopened : ∀ element ∈ opened, element.recorded = false ∧ element.defines = false)
      (hdepth : Tag.depthAfter (waiting + opened.length) (rest.map DefinitionEvent.tag) = some 0)
      (houter : Nested ground recorded defines 1 outer elements) :
      Nested ground recorded defines waiting (⟨id, rest, false, false⟩ :: outer) (opened ++ elements)

namespace Nested

variable {ground elements : List (OpenElement α)} {recorded defines : Bool} {waiting : Nat} {id : String}
  {tag : DefinitionEvent} {tags : List DefinitionEvent} {use : Bool × Bool} {outer : List Expansion}

/-- The element of a start tag may be waited for. -/
theorem start {name : String} {attributes : Attributes} {text : String} {own shares : Bool}
    (h : Nested ground recorded defines waiting
      (⟨id, .startTag name attributes text :: tags, shares, own⟩ :: outer) elements) :
    Nested ground recorded defines (waiting + 1) (⟨id, tags, shares, own⟩ :: outer) elements := by
  cases h with
  | outermost hopened hdepth =>
    apply Nested.outermost hopened
    rwa [Nat.add_right_comm]
  | inner hopened hdepth houter =>
    refine .inner hopened ?_ houter
    rwa [Nat.add_right_comm]

/-- An element that has been waited for is open. -/
theorem push {expansions : List Expansion}
    (h : Nested ground recorded defines (waiting + 1) expansions elements) {element : OpenElement α}
    (helement : element.recorded = false ∧ element.defines = false) :
    Nested ground recorded defines waiting expansions (element :: elements) := by
  cases h with
  | @outermost _ _ rest opened hopened hdepth =>
    change Nested ground recorded defines waiting _ ((element :: opened) ++ ground)
    apply Nested.outermost (List.forall_mem_cons.2 ⟨helement, hopened⟩)
    rwa [List.length_cons, ← Nat.add_assoc, Nat.add_right_comm]
  | @inner _ _ rest opened _ others hopened hdepth houter =>
    change Nested ground recorded defines waiting _ ((element :: opened) ++ others)
    refine .inner (List.forall_mem_cons.2 ⟨helement, hopened⟩) ?_ houter
    rwa [List.length_cons, ← Nat.add_assoc, Nat.add_right_comm]

/-- An end tag in an expansion ends an element of that expansion. -/
theorem stop {name text : String} {own shares : Bool}
    (h : Nested ground recorded defines 0 (⟨id, .endTag name text :: tags, shares, own⟩ :: outer) elements) :
    ∃ element others, elements = element :: others ∧
      (element.recorded = false ∧ element.defines = false) ∧
      Nested ground recorded defines 0 (⟨id, tags, shares, own⟩ :: outer) others := by
  cases h with
  | @outermost _ _ _ opened hopened hdepth =>
    cases opened with
    | nil => cases hdepth
    | cons element opened =>
      obtain ⟨helement, hopened⟩ := List.forall_mem_cons.1 hopened
      rw [List.length_cons, ← Nat.add_assoc] at hdepth
      exact ⟨element, opened ++ ground, rfl, helement, .outermost hopened hdepth⟩
  | @inner _ _ _ opened _ others hopened hdepth houter =>
    cases opened with
    | nil => cases hdepth
    | cons element opened =>
      obtain ⟨helement, hopened⟩ := List.forall_mem_cons.1 hopened
      rw [List.length_cons, ← Nat.add_assoc] at hdepth
      exact ⟨element, opened ++ others, rfl, helement, .inner hopened hdepth houter⟩

/-- At the end of an expansion nothing that it has opened is open. -/
theorem finish {own shares : Bool}
    (h : Nested ground recorded defines 0 (⟨id, [], shares, own⟩ :: outer) elements) :
    (outer = [] ∧ elements = ground ∧ shares = recorded ∧ own = defines) ∨
      (Nested ground recorded defines 1 outer elements ∧ shares = false ∧ own = false) := by
  cases h with
  | @outermost _ _ _ opened hopened hdepth =>
    rw [List.map_nil, Tag.depthAfter, Option.some.injEq, Nat.zero_add, List.length_eq_zero_iff] at hdepth
    subst hdepth
    exact .inl ⟨rfl, rfl, rfl, rfl⟩
  | @inner _ _ _ opened _ others hopened hdepth houter =>
    rw [List.map_nil, Tag.depthAfter, Option.some.injEq, Nat.zero_add, List.length_eq_zero_iff] at hdepth
    subst hdepth
    exact .inr ⟨houter, rfl, rfl⟩

/-- The elements under those of expansions stay where they are. -/
theorem exists_append {expansions : List Expansion}
    (h : Nested ground recorded defines waiting expansions elements) :
    ∃ above, elements = above ++ ground := by
  induction h with
  | outermost hopened hdepth => exact ⟨_, rfl⟩
  | @inner _ _ _ opened _ elements hopened hdepth houter ih =>
    obtain ⟨above, rfl⟩ := ih
    exact ⟨opened ++ above, (List.append_assoc ..).symm⟩

end Nested

/-- Open elements under their names, innermost first. -/
abbrev NamedElements (α : Type) := List (String × OpenElement α)

namespace NamedElements

def names (opened : NamedElements α) : List String := opened.map Prod.fst

def elements (opened : NamedElements α) : List (OpenElement α) := opened.map Prod.snd

def held (opened : NamedElements α) : List Held := opened.map fun (name, element) => element.held name

end NamedElements

/-- How the open elements of a stage lie on top of others: those of the document's own tags, which the tags
    still to come match up to some that are open at the end; then a use that is being expanded, if there is
    one, with all that is open inside it. The recordings are those of the document's own elements. -/
inductive Layout (ground : List (OpenElement α)) (outer : List Held) (last : List String) (stage : Stage α) :
    Prop
  | direct (opened : NamedElements α) (hexpansions : stage.expansions = [])
      (helements : stage.document.openElements = opened.elements ++ ground)
      (hnames : Tag.openAfter opened.names (MarkupEvent.tags stage.rest) = some last)
      (htracks : Tracks [] (opened.held ++ outer) stage.document.recordings)
  | replayed (opened : NamedElements α) (name : String) (recorded defines : Bool)
      (helements : Nested (opened.elements ++ ground) recorded defines 0 stage.expansions
        stage.document.openElements)
      (hnames : Tag.openAfter (name :: opened.names) (MarkupEvent.tags stage.rest) = some last)
      (htracks : Tracks [] (⟨name, recorded, defines⟩ :: (opened.held ++ outer)) stage.document.recordings)

namespace Layout

variable {ground : List (OpenElement α)} {outer : List Held} {last : List String} {stage : Stage α}

/-- The elements below stay where they are. -/
theorem exists_append (h : Layout ground outer last stage) :
    ∃ above, stage.document.openElements = above ++ ground := by
  cases h with
  | direct opened hexpansions helements hnames htracks => exact ⟨_, helements⟩
  | replayed opened name recorded defines helements hnames htracks =>
    obtain ⟨above, habove⟩ := helements.exists_append
    exact ⟨above ++ opened.elements, by rw [habove, List.append_assoc]⟩

/-- So do the recordings of the elements below. -/
theorem countP_le_length (h : Layout ground outer last stage) :
    outer.countP Held.defines ≤ stage.document.recordings.length := by
  cases h with
  | direct opened hexpansions helements hnames htracks =>
    rw [htracks.length_eq, List.countP_append]
    exact Nat.le_add_left _ _
  | replayed opened name recorded defines helements hnames htracks =>
    rw [htracks.length_eq, ← List.cons_append, List.countP_append]
    exact Nat.le_add_left _ _

/-- After all tags, where these leave no element open, nothing lies on top of what was there before. -/
theorem finish (h : Layout ground outer [] stage) (hexpansions : stage.expansions = [])
    (hrest : stage.rest = []) :
    stage.document.openElements = ground ∧
      stage.document.recordings.length = outer.countP Held.defines := by
  cases h with
  | direct opened _ helements hnames htracks =>
    rw [hrest, MarkupEvent.tags, List.filterMap_nil, Tag.openAfter, Option.some.injEq, NamedElements.names,
      List.map_eq_nil_iff] at hnames
    subst hnames
    exact ⟨helements, htracks.length_eq⟩
  | replayed opened name recorded defines helements hnames htracks =>
    rw [hexpansions] at helements
    cases helements

/-- As many elements are open as tags to come close, but for a use that is being expanded. -/
theorem length_eq {names : List String} (h : Layout [] outer last stage)
    (hnames : Tag.openAfter names (MarkupEvent.tags stage.rest) = some last) :
    (stage.expansions = [] → stage.document.openElements.length = names.length) ∧
      names.length ≤ stage.document.openElements.length + 1 := by
  have hcount := Tag.startCount_of_openAfter hnames
  cases h with
  | direct opened hexpansions helements hown htracks =>
    have hsame := Tag.startCount_of_openAfter hown
    rw [NamedElements.names, List.length_map] at hsame
    rw [helements, List.append_nil, NamedElements.elements, List.length_map]
    exact ⟨fun _ => by omega, by omega⟩
  | replayed opened name recorded defines helements hown htracks =>
    have hsame := Tag.startCount_of_openAfter hown
    rw [List.length_cons, NamedElements.names, List.length_map] at hsame
    constructor
    · intro hexpansions
      rw [hexpansions] at helements
      cases helements
    · obtain ⟨above, habove⟩ := helements.exists_append
      rw [habove, List.append_nil, List.length_append, NamedElements.elements, List.length_map]
      omega

end Layout

section Handles

variable [Scalar α] {setting : Setting α} {document result : Document α} {name : String}
  {attributes : Attributes}

/-- A start tag puts its element on the others. While uses are expanded it is not recorded. -/
theorem Document.Handles.start_element
    (h : Handles setting document (.startTag name attributes) result none) :
    ∃ element, result.openElements = element :: document.openElements ∧
      (∀ held, Tracks [] held document.recordings →
        Tracks [] (element.held name :: held) result.recordings) ∧
      (HoldsElements document.definitions → HoldsElements result.definitions) ∧
      (document.replayDepth ≠ 0 → element.recorded = false ∧ element.defines = false) := by
  cases h with
  | root frame hroot hname hsize hrest =>
    exact ⟨_, rfl, fun held htracks => .skipped htracks, id, fun _ => ⟨rfl, rfl⟩⟩
  | @element _ _ recording recorded defines opened opening hroot hrecords hopens hopening =>
    have helements : opened.openElements = document.openElements :=
      congrArg Standing.openElements (hopens.standing_eq.trans hrecords.standing_eq)
    have hrecordings : opened.recordings = recording.recordings :=
      congrArg Archive.recordings hopens.archive_eq
    have hdefinitions : opened.definitions = recording.definitions :=
      congrArg Archive.definitions hopens.archive_eq
    refine ⟨⟨opening.closing, recorded, defines⟩, congrArg (_ :: ·) helements, fun held htracks => ?_,
      fun hholds => ?_, fun hreplay => ?_⟩
    · change Tracks [] _ opened.recordings
      rw [hrecordings]
      exact hrecords.tracks htracks
    · change HoldsElements opened.definitions
      rw [hdefinitions]
      exact hrecords.holdsElements hholds
    · cases hrecords with
      | unrecorded => exact ⟨rfl, rfl⟩
      | shared leadingText hzero => exact absurd hzero hreplay
      | own leadingText hzero hid => exact absurd hzero hreplay

/-- The element of a use is put on the others only after its expansion, which goes through one element. -/
theorem Document.Handles.start_use {expansion : Expansion}
    (h : Handles setting document (.startTag name attributes) result (some expansion)) :
    result.openElements = document.openElements ∧
      (∀ held, Tracks [] held document.recordings →
        Tracks [] (⟨name, expansion.recorded, expansion.defines⟩ :: held) result.recordings) ∧
      (HoldsElements document.definitions → HoldsElements result.definitions ∧
        Tag.depthAfter 0 (expansion.rest.map DefinitionEvent.tag) = some 0) ∧
      (document.replayDepth ≠ 0 → expansion.recorded = false ∧ expansion.defines = false) := by
  cases h with
  | use hroot hrecords hopens =>
    refine ⟨congrArg Standing.openElements hrecords.standing_eq, fun held htracks => hrecords.tracks htracks,
      fun hholds => ?_, fun hreplay => ?_⟩
    · obtain ⟨-, -, -, replacedName, own, text, replayed, merged, rest, rfl, hcomplete⟩ := hopens.expansion_inv
      have hrecording := hrecords.holdsElements hholds
      exact ⟨hrecording, (hrecording _ _ hcomplete).depthAfter⟩
    · cases hrecords with
      | unrecorded => exact ⟨rfl, rfl⟩
      | shared leadingText hzero => exact absurd hzero hreplay
      | own leadingText hzero hid => exact absurd hzero hreplay

theorem Document.Handles.end_element (h : Handles setting document (.endTag name) result none) :
    ∃ element, document.openElements = element :: result.openElements ∧
      ∀ held, Tracks [] (element.held name :: held) document.recordings →
        Tracks [] held result.recordings ∧ Defines document.definitions result.definitions := by
  cases h with
  | @endTag _ element others _ helements hends =>
    have houter : result.openElements = others := congrArg Standing.openElements hends.standing_eq
    rw [helements, houter]
    exact ⟨element, rfl, fun held htracks => hends.tracks htracks⟩

/-- An event opens or closes one element at most. -/
theorem Document.Handles.openElements_cases {event : MarkupEvent} {begun : Option Expansion}
    (h : Handles setting document event result begun) :
    result.openElements = document.openElements ∨
      (∃ element, result.openElements = element :: document.openElements) ∨
      ∃ element, document.openElements = element :: result.openElements := by
  cases event with
  | startTag name attributes =>
    cases begun with
    | none =>
      obtain ⟨element, hpushed, -⟩ := h.start_element
      exact .inr (.inl ⟨element, hpushed⟩)
    | some expansion => exact .inl h.start_use.1
  | endTag name =>
    cases begun with
    | some expansion => cases h
    | none =>
      obtain ⟨element, hpopped, -⟩ := h.end_element
      exact .inr (.inr ⟨element, hpopped⟩)
  | text text =>
    obtain ⟨rfl, -⟩ := h.text_eq
    exact .inl (congrArg Standing.openElements (addText_standing document text))

end Handles

namespace Stage

variable [Scalar α] {setting : Setting α} {stage next fetched : Stage α} {ground : List (OpenElement α)}
  {held : List Held} {last expanding : List String} {depth : Nat}

omit [Scalar α] in
theorem fetch_archive {event : MarkupEvent} (h : stage.fetch = some (event, fetched)) :
    fetched.document.recordings = stage.document.recordings ∧
      fetched.document.definitions = stage.document.definitions := by
  obtain hsame | ⟨text, htext⟩ := fetch_document h
  · rw [hsame]
    exact ⟨rfl, rfl⟩
  · rw [htext]
    exact ⟨addText_recordings _ text, addText_definitions _ text⟩

omit [Scalar α] in
/-- The element of a use is on top once its expansion ends. -/
theorem layout_expanded {expansion : Expansion} {outer : List Expansion}
    (hlayout : Layout ground held last stage)
    (hexpansions : stage.expansions = expansion :: outer) (hrest : expansion.rest = [])
    (hdocument : next.document = (stage.document.endExpansion expansion.id).push expansion.element)
    (hnext : next.expansions = outer) (hevents : next.rest = stage.rest) : Layout ground held last next := by
  have hrecordings : next.document.recordings = stage.document.recordings := by
    rw [hdocument]
    rfl
  have hpushed : next.document.openElements = expansion.element :: stage.document.openElements := by
    rw [hdocument]
    rfl
  obtain ⟨id, tags, shares, own⟩ := expansion
  dsimp only at hrest
  subst hrest
  cases hlayout with
  | direct opened hnone helements hnames htracks =>
    rw [hexpansions] at hnone
    cases hnone
  | replayed opened name recorded defines helements hnames htracks =>
    rw [hexpansions] at helements
    obtain ⟨rfl, hground, rfl, rfl⟩ | ⟨houter, rfl, rfl⟩ := helements.finish
    · refine .direct ((name, ⟨.nothing, shares, own⟩) :: opened) hnext ?_ ?_ ?_
      · rw [hpushed, hground]
        rfl
      · rwa [hevents]
      · rwa [hrecordings]
    · refine .replayed opened name recorded defines ?_ (hevents ▸ hnames) (hrecordings ▸ htracks)
      rw [hnext, hpushed]
      exact houter.push ⟨rfl, rfl⟩

/-- A tag in an expansion opens or closes an element there. -/
theorem layout_replayed {document : Document α} {id : String} {tag : DefinitionEvent}
    {tags : List DefinitionEvent} {shares own : Bool} {outer : List Expansion} {begun : Option Expansion}
    (hlayout : Layout ground held last stage) (hholds : HoldsElements stage.document.definitions)
    (hexpansions : stage.expansions = ⟨id, tag :: tags, shares, own⟩ :: outer)
    (hstanding : document.standing = stage.document.standing)
    (hrecordings : document.recordings = stage.document.recordings)
    (hdefinitions : document.definitions = stage.document.definitions) (hreplay : document.replayDepth ≠ 0)
    (h : Handles setting document tag.event next.document begun)
    (hnext : next.expansions = begun.toList ++ ⟨id, tags, shares, own⟩ :: outer)
    (hevents : next.rest = stage.rest) :
    Layout ground held last next ∧ HoldsElements next.document.definitions := by
  have hopen : document.openElements = stage.document.openElements := congrArg Standing.openElements hstanding
  rw [← hdefinitions] at hholds
  cases hlayout with
  | direct opened hnone helements hnames htracks =>
    rw [hexpansions] at hnone
    cases hnone
  | replayed opened name recorded defines helements hnames htracks =>
    rw [hexpansions, ← hopen] at helements
    rw [← hrecordings] at htracks
    cases tag with
    | startTag tagName attributes text =>
      cases begun with
      | none =>
        obtain ⟨element, hpushed, htrack, hhold, hunrecorded⟩ := h.start_element
        obtain ⟨hrecorded, hdefines⟩ := hunrecorded hreplay
        refine ⟨.replayed opened name recorded defines ?_ (hevents ▸ hnames) ?_, hhold hholds⟩
        · rw [hnext, hpushed]
          exact helements.start.push ⟨hrecorded, hdefines⟩
        · have hall := htrack _ htracks
          rw [OpenElement.held, hrecorded, hdefines] at hall
          cases hall with
          | skipped hall => exact hall
      | some expansion =>
        obtain ⟨hsame, htrack, hhold, hunrecorded⟩ := h.start_use
        obtain ⟨hdefinitions', hdepth⟩ := hhold hholds
        obtain ⟨hrecorded, hdefines⟩ := hunrecorded hreplay
        obtain ⟨expanded, rest, expandedRecorded, expandedDefines⟩ := expansion
        cases hrecorded
        cases hdefines
        refine ⟨.replayed opened name recorded defines ?_ (hevents ▸ hnames) ?_, hdefinitions'⟩
        · rw [hnext, hsame]
          exact Nested.inner (List.forall_mem_nil _) hdepth helements.start
        · have hall := htrack _ htracks
          cases hall with
          | skipped hall => exact hall
    | endTag tagName text =>
      obtain ⟨element, others, hsplit, ⟨hrecorded, hdefines⟩, hothers⟩ := helements.stop
      cases begun with
      | some expansion => cases h
      | none =>
        obtain ⟨ended, hended, hends⟩ := h.end_element
        rw [hsplit] at hended
        obtain ⟨rfl, rfl⟩ := List.cons.inj hended
        have hall : Tracks [] (element.held tagName :: ⟨name, recorded, defines⟩ :: (opened.held ++ held))
            document.recordings := by
          rw [OpenElement.held, hrecorded, hdefines]
          exact .skipped htracks
        obtain ⟨htracks', hdefined⟩ := hends _ hall
        refine ⟨.replayed opened name recorded defines ?_ (hevents ▸ hnames) htracks',
          hdefined.holdsElements hholds⟩
        rw [hnext]
        exact hothers

/-- A tag of the document opens or closes an element of the document. -/
theorem layout_direct {document : Document α} {event : MarkupEvent} {events : List MarkupEvent}
    {begun : Option Expansion} (hlayout : Layout ground held last stage)
    (hholds : HoldsElements stage.document.definitions) (hexpansions : stage.expansions = [])
    (hrest : stage.rest = event :: events) (hdocument : document = stage.document)
    (h : Handles setting document event next.document begun) (hnext : next.expansions = begun.toList)
    (hevents : next.rest = events) :
    Layout ground held last next ∧ HoldsElements next.document.definitions := by
  subst hdocument
  cases hlayout with
  | replayed opened name recorded defines helements hnames htracks =>
    rw [hexpansions] at helements
    cases helements
  | direct opened _ helements hnames htracks =>
    rw [hrest] at hnames
    cases event with
    | startTag name attributes =>
      cases begun with
      | none =>
        obtain ⟨element, hpushed, htrack, hhold, -⟩ := h.start_element
        refine ⟨.direct ((name, element) :: opened) hnext ?_ (hevents ▸ hnames) (htrack _ htracks),
          hhold hholds⟩
        rw [hpushed, helements]
        rfl
      | some expansion =>
        obtain ⟨hsame, htrack, hhold, -⟩ := h.start_use
        obtain ⟨hdefinitions, hdepth⟩ := hhold hholds
        refine ⟨.replayed opened name expansion.recorded expansion.defines ?_ (hevents ▸ hnames)
          (htrack _ htracks), hdefinitions⟩
        rw [hnext, hsame, helements]
        exact Nested.outermost (List.forall_mem_nil _) hdepth
    | endTag name =>
      cases begun with
      | some expansion => cases h
      | none =>
        obtain ⟨ended, hended, hends⟩ := h.end_element
        cases opened with
        | nil => cases hnames
        | cons innermost opened =>
          obtain ⟨innermostName, element⟩ := innermost
          rw [helements] at hended
          obtain ⟨rfl, hothers⟩ := List.cons.inj hended
          have hname : name = innermostName := by
            by_contra hname
            simp only [MarkupEvent.tags, List.filterMap_cons, MarkupEvent.tag?, NamedElements.names,
              List.map_cons, Tag.openAfter, if_neg hname] at hnames
            cases hnames
          subst hname
          obtain ⟨htracks', hdefined⟩ := hends _ htracks
          refine ⟨.direct opened hnext hothers.symm ?_ htracks', hdefined.holdsElements hholds⟩
          simp only [MarkupEvent.tags, List.filterMap_cons, MarkupEvent.tag?, NamedElements.names,
            List.map_cons, Tag.openAfter, if_true] at hnames
          rw [hevents]
          exact hnames
    | text text =>
      obtain ⟨htext, rfl⟩ := h.text_eq
      have hopen : next.document.openElements = stage.document.openElements := by
        rw [htext]
        exact congrArg Standing.openElements (addText_standing _ text)
      refine ⟨.direct opened hnext (hopen.trans helements) (hevents ▸ hnames) ?_, ?_⟩
      · rwa [htext, addText_recordings]
      · rwa [htext, addText_definitions]

/-- Elements stay where they are as long as not fewer are open. -/
theorem Passes.exists_append (h : Passes setting stage next)
    (hstage : ∃ above, stage.document.openElements = above ++ ground)
    (hlength : ground.length ≤ next.document.openElements.length) :
    ∃ above, next.document.openElements = above ++ ground := by
  obtain ⟨above, habove⟩ := hstage
  cases h with
  | @expanded expansion outer hexpansions hrest hdocument hnext hevents =>
    refine ⟨expansion.element :: above, ?_⟩
    rw [hdocument, List.cons_append, ← habove]
    rfl
  | @handled event fetched begun hfetch hhandles hnext hevents =>
    have hsame : fetched.document.openElements = stage.document.openElements :=
      congrArg Standing.openElements (fetch_standing hfetch).1
    rw [← hsame] at habove
    obtain hkept | ⟨element, hpushed⟩ | ⟨element, hpopped⟩ := hhandles.openElements_cases
    · exact ⟨above, hkept.trans habove⟩
    · refine ⟨element :: above, ?_⟩
      rw [hpushed, habove, List.cons_append]
    · rw [habove] at hpopped
      cases above with
      | nil =>
        rw [List.nil_append] at hpopped
        rw [hpopped, List.length_cons] at hlength
        omega
      | cons innermost above => exact ⟨above, (List.cons.inj hpopped).2.symm⟩

/-- A step keeps the layout of the open elements, and all complete definitions are elements. -/
theorem Passes.layout (h : Passes setting stage next) (hlayout : Layout ground held last stage)
    (hcounts : Counts expanding depth stage) (hholds : HoldsElements stage.document.definitions) :
    Layout ground held last next ∧ HoldsElements next.document.definitions := by
  cases h with
  | @expanded expansion outer hexpansions hrest hdocument hnext hevents =>
    have hdefinitions : next.document.definitions = stage.document.definitions := by
      rw [hdocument]
      rfl
    exact ⟨layout_expanded hlayout hexpansions hrest hdocument hnext hevents, hdefinitions ▸ hholds⟩
  | @handled event fetched begun hfetch hhandles hnext hevents =>
    obtain ⟨hstanding, -⟩ := fetch_standing hfetch
    obtain ⟨hrecordings, hdefinitions⟩ := fetch_archive hfetch
    obtain ⟨expansion, tag, rest, outer, hexpansions, htags, hevent, -, hfetched, hrest⟩ |
      ⟨hexpansions, hrest, hdrawing, hfetched⟩ := fetch_eq_some hfetch
    · have hreplay : fetched.document.replayDepth ≠ 0 := by
        have hsame : fetched.document.replayDepth = stage.document.replayDepth :=
          congrArg Standing.replayDepth hstanding
        rw [hsame, hcounts.replayDepth, hexpansions, List.length_cons]
        omega
      obtain ⟨id, tags, shares, own⟩ := expansion
      dsimp only at htags
      subst htags hevent
      rw [hfetched] at hnext
      exact layout_replayed hlayout hholds hexpansions hstanding hrecordings hdefinitions hreplay hhandles
        hnext (hevents.trans hrest)
    · rw [hfetched, List.append_nil] at hnext
      exact layout_direct hlayout hholds hexpansions hrest (congrArg Drawing.document hdrawing) hhandles
        hnext hevents

end Stage

end SvgPage
