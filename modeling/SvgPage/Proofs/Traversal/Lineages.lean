import SvgPage.Proofs.Drawing.Intends
import SvgPage.Proofs.Traversal.Layout

namespace SvgPage

namespace Tag

theorem depthAfter_append (depth : Nat) (first second : List Tag) :
    depthAfter depth (first ++ second) = (depthAfter depth first).bind (depthAfter · second) := by
  induction first generalizing depth with
  | nil => rfl
  | cons tag rest ih =>
    cases tag with
    | start name => exact ih (depth + 1)
    | stop name =>
      cases depth with
      | zero => rfl
      | succ depth => exact ih depth

/-- Elements around those that tags close stay open. -/
theorem depthAfter_add {depth after : Nat} {tags : List Tag} (h : depthAfter depth tags = some after)
    (outer : Nat) : depthAfter (depth + outer) tags = some (after + outer) := by
  induction tags generalizing depth with
  | nil =>
    cases h
    rfl
  | cons tag rest ih =>
    cases tag with
    | start name =>
      rw [depthAfter, Nat.add_right_comm]
      exact ih h
    | stop name =>
      cases depth with
      | zero => cases h
      | succ depth =>
        rw [Nat.add_right_comm, depthAfter]
        exact ih h

end Tag

/-- A start tag. -/
structure StartTag where
  name : String
  attributes : Attributes
deriving DecidableEq

namespace StartTag

def kind (tag : StartTag) : ElementKind := .ofName tag.name

/-- Whether an element in a clip path applies its map to what is inside it. A `use` does not: its map is
    part of the element that stands for it. -/
def movesContent (tag : StartTag) : Bool :=
  match tag.kind with
  | .gradient _ | .stop | .clipPath | .use => false
  | _ => true

variable {α : Type} [Scalar α]

/-- The product of the maps of elements inside each other, innermost first, after the map around them: that
    of the outermost element comes first. -/
def product (base : Matrix α) (lineage : List StartTag) : Matrix α :=
  (lineage.filter movesContent).foldr (fun tag matrix => matrix.multiply tag.attributes.transform) base

theorem product_cons_of_moves {tag : StartTag} (h : tag.movesContent = true) (base : Matrix α)
    (around : List StartTag) :
    product base (tag :: around) = (product base around).multiply tag.attributes.transform := by
  rw [product, List.filter_cons_of_pos h, List.foldr_cons]
  rfl

theorem product_cons_of_still {tag : StartTag} (h : tag.movesContent = false) (base : Matrix α)
    (around : List StartTag) : product base (tag :: around) = product base around := by
  rw [product, List.filter_cons_of_neg (Bool.eq_false_iff.1 h)]
  rfl

end StartTag

namespace MarkupEvent

/-- The elements that are open after events, innermost first. -/
def aroundAfter : (around : List StartTag) → List MarkupEvent → List StartTag
  | around, [] => around
  | around, .startTag name attributes :: rest => aroundAfter (⟨name, attributes⟩ :: around) rest
  | around, .endTag _ :: rest => aroundAfter around.tail rest
  | around, .text _ :: rest => aroundAfter around rest

/-- Each element that begins in events, with the elements around it, in document order. -/
def lineages : (around : List StartTag) → List MarkupEvent → List (List StartTag)
  | _, [] => []
  | around, .startTag name attributes :: rest =>
    (⟨name, attributes⟩ :: around) :: lineages (⟨name, attributes⟩ :: around) rest
  | around, .endTag _ :: rest => lineages around.tail rest
  | around, .text _ :: rest => lineages around rest

theorem aroundAfter_append (around : List StartTag) (first second : List MarkupEvent) :
    aroundAfter around (first ++ second) = aroundAfter (aroundAfter around first) second := by
  induction first generalizing around with
  | nil => rfl
  | cons event rest ih => cases event <;> exact ih _

theorem lineages_append (around : List StartTag) (first second : List MarkupEvent) :
    lineages around (first ++ second) = lineages around first ++ lineages (aroundAfter around first) second := by
  induction first generalizing around with
  | nil => rfl
  | cons event rest ih =>
    cases event with
    | startTag name attributes => exact congrArg (_ :: ·) (ih _)
    | endTag name => exact ih _
    | text text => exact ih _

theorem length_aroundAfter {around : List StartTag} {events : List MarkupEvent} {depth : Nat}
    (h : Tag.depthAfter around.length (tags events) = some depth) : (aroundAfter around events).length = depth := by
  induction events generalizing around with
  | nil =>
    cases h
    rfl
  | cons event rest ih =>
    cases event with
    | startTag name attributes =>
      have hrest : Tag.depthAfter (StartTag.mk name attributes :: around).length (tags rest) = some depth := h
      exact ih hrest
    | endTag name =>
      cases around with
      | nil => cases h
      | cons innermost around =>
        have hrest : Tag.depthAfter around.length (tags rest) = some depth := h
        exact ih hrest
    | text text => exact ih h

end MarkupEvent

/-- What a `use` comes to by what it stands for: it is expanded if there is anything, and else does nothing. -/
def Opening.ofStandIn {α : Type} : Option (String × List DefinitionEvent) → Opening α
  | some (id, tags) => .expansion id tags
  | none => .inert

namespace Document

variable {α : Type} [Scalar α]

/-- What a `use` stands for: the id it refers to, and the tags that are handled in its place. They are those
    of the element with the id, the first one with the attributes of both. A reference that leads nowhere,
    to an element around the `use`, or deeper than the limit allows stands for nothing. -/
def standIn? (setting : Setting α) (document : Document α) (attributes : Attributes) :
    Option (String × List DefinitionEvent) :=
  match document.findUse? attributes with
  | some (id, .complete (.startTag name own _ :: rest)) =>
    if document.expanding.contains id || setting.options.nesting.isReached document.expanding.length then none
    else
      let merged := Use.merge α name own attributes
      some (id, .startTag merged.1 merged.2 "" :: rest)
  | _ => none

theorem openUse_result (setting : Setting α) (document : Document α) (attributes : Attributes)
    (ledger : Ledger α) :
    (document.openUse setting attributes ledger).1 = .ofStandIn (document.standIn? setting attributes) := by
  rw [openUse, standIn?]
  cases hfound : document.findUse? attributes with
  | none => rfl
  | some found =>
    obtain ⟨id, definition⟩ := found
    cases definition with
    | pending => rfl
    | complete tags =>
      -- A use of what does not begin with a start tag is inert as well, whatever else holds.
      rcases tags with _ | ⟨⟨name, own, leadingText⟩ | ⟨name, leadingText⟩, rest⟩ <;> dsimp only <;>
        generalize document.expanding.contains id = expanding <;>
        generalize setting.options.nesting.isReached document.expanding.length = reached <;>
        cases expanding <;> cases reached <;> rfl

/-- What stands for a `use` is an element that has been defined. -/
theorem standIn?_eq_some {setting : Setting α} {document : Document α} {attributes : Attributes} {id : String}
    {tags : List DefinitionEvent} (h : document.standIn? setting attributes = some (id, tags)) :
    id ∉ document.expanding ∧ setting.options.nesting.isReached document.expanding.length = false ∧
      ∃ defined, document.definitions.get? id = some (.complete defined) ∧
        Tag.depthAfter 0 (defined.map DefinitionEvent.tag) = Tag.depthAfter 0 (tags.map DefinitionEvent.tag) := by
  rw [standIn?] at h
  split at h
  next hfound =>
    split at h
    · cases h
    next hfree =>
      cases h
      rw [Bool.or_eq_true, not_or, Bool.not_eq_true, Bool.not_eq_true] at hfree
      obtain ⟨linked, -, hlinked⟩ := Option.bind_eq_some_iff.1 hfound
      obtain ⟨definition, hdefinition, hpair⟩ := Option.bind_eq_some_iff.1 hlinked
      cases hpair
      exact ⟨by simpa using hfree.1, hfree.2, _, hdefinition, rfl⟩
  · cases h

end Document

/-- What stands for an event: for the start tag of a `use` what the `use` stands for, and for others nothing. -/
def MarkupEvent.standIn? {α : Type} [Scalar α] (setting : Setting α) (document : Document α) :
    MarkupEvent → Option (String × List DefinitionEvent)
  | .startTag name attributes =>
    if ElementKind.ofName name = .use then document.standIn? setting attributes else none
  | _ => none

namespace MarkupEvent

variable {α : Type} [Scalar α] {setting : Setting α} {document other : Document α}

/-- Only what has been defined and what is being expanded counts. -/
theorem standIn?_congr (hdefinitions : other.definitions = document.definitions)
    (hexpanding : other.expanding = document.expanding) (event : MarkupEvent) :
    event.standIn? setting other = event.standIn? setting document := by
  cases event with
  | startTag name attributes =>
    simp only [standIn?, Document.standIn?, Document.findUse?, hdefinitions, hexpanding]
  | _ => rfl

theorem standIn?_eq_some {event : MarkupEvent} {id : String} {tags : List DefinitionEvent}
    (h : event.standIn? setting document = some (id, tags)) :
    ∃ name attributes, event = .startTag name attributes ∧ document.standIn? setting attributes = some (id, tags) := by
  cases event with
  | startTag name attributes =>
    rw [standIn?] at h
    split at h
    · exact ⟨name, attributes, rfl, h⟩
    · cases h
  | _ => cases h

theorem tags_map_event (recorded : List DefinitionEvent) :
    tags (recorded.map DefinitionEvent.event) = recorded.map DefinitionEvent.tag := by
  induction recorded with
  | nil => rfl
  | cons tag rest ih => cases tag <;> exact congrArg (_ :: ·) ih

end MarkupEvent

/-- Events unfold to others: right before each `use` there is what stands for it, unfolded in its turn. -/
inductive Unfolds {α : Type} [Scalar α] (setting : Setting α) :
    Document α → List MarkupEvent → List MarkupEvent → Prop
  | nil {document} : Unfolds setting document [] []
  | keep {document event rest unfolded} (hnone : event.standIn? setting document = none)
      (hrest : Unfolds setting document rest unfolded) :
      Unfolds setting document (event :: rest) (event :: unfolded)
  | expand {document event id tags rest content unfolded}
      (hsome : event.standIn? setting document = some (id, tags))
      (hcontent : Unfolds setting (document.beginExpansion id) (tags.map DefinitionEvent.event) content)
      (hrest : Unfolds setting document rest unfolded) :
      Unfolds setting document (event :: rest) (content ++ event :: unfolded)

namespace Unfolds

variable {α : Type} [Scalar α] {setting : Setting α} {document : Document α}
  {events others rest unfolded content : List MarkupEvent}

/-- There is one way to unfold events. -/
theorem unique (h : Unfolds setting document events unfolded) (hother : Unfolds setting document events others) :
    others = unfolded := by
  induction h generalizing others with
  | nil =>
    cases hother
    rfl
  | keep hnone hrest ih =>
    cases hother with
    | keep hnone' hrest' => rw [ih hrest']
    | expand hsome hcontent hrest' =>
      rw [hnone] at hsome
      cases hsome
  | expand hsome hcontent hrest ihcontent ihrest =>
    cases hother with
    | keep hnone hrest' =>
      rw [hsome] at hnone
      cases hnone
    | expand hsome' hcontent' hrest' =>
      cases hsome.symm.trans hsome'
      rw [ihcontent hcontent', ihrest hrest']

theorem append (h : Unfolds setting document events unfolded) (hrest : Unfolds setting document rest content) :
    Unfolds setting document (events ++ rest) (unfolded ++ content) := by
  induction h with
  | nil => exact hrest
  | keep hnone _ ih => exact .keep hnone (ih hrest)
  | expand hsome hcontent _ _ ih =>
    rw [List.cons_append, List.append_assoc, List.cons_append]
    exact .expand hsome hcontent (ih hrest)

theorem congr {other : Document α} (h : Unfolds setting document events unfolded)
    (hdefinitions : other.definitions = document.definitions) (hexpanding : other.expanding = document.expanding) :
    Unfolds setting other events unfolded := by
  induction h generalizing other with
  | nil => exact .nil
  | keep hnone hrest ih =>
    exact .keep ((MarkupEvent.standIn?_congr hdefinitions hexpanding _).trans hnone) (ih hdefinitions hexpanding)
  | expand hsome hcontent hrest ihcontent ihrest =>
    exact .expand ((MarkupEvent.standIn?_congr hdefinitions hexpanding _).trans hsome)
      (ihcontent hdefinitions (congrArg (_ :: ·) hexpanding)) (ihrest hdefinitions hexpanding)

/-- What stands for uses leaves no element open. -/
theorem depthAfter_tags (h : Unfolds setting document events unfolded) (hholds : HoldsElements document.definitions)
    (depth : Nat) :
    Tag.depthAfter depth (MarkupEvent.tags unfolded) = Tag.depthAfter depth (MarkupEvent.tags events) := by
  induction h generalizing depth with
  | nil => rfl
  | @keep document event rest unfolded hnone hrest ih =>
    cases event with
    | startTag name attributes => exact ih hholds (depth + 1)
    | endTag name =>
      cases depth with
      | zero => rfl
      | succ depth => exact ih hholds depth
    | text text => exact ih hholds depth
  | expand hsome hcontent hrest ihcontent ihrest =>
    obtain ⟨name, attributes, rfl, hstand⟩ := MarkupEvent.standIn?_eq_some hsome
    obtain ⟨-, -, defined, hdefined, htags⟩ := Document.standIn?_eq_some hstand
    have helement := (hholds _ _ hdefined).depthAfter
    rw [htags, ← MarkupEvent.tags_map_event] at helement
    have hinside := (ihcontent hholds depth).trans (Nat.zero_add depth ▸ Tag.depthAfter_add helement depth)
    rw [MarkupEvent.tags_append, Tag.depthAfter_append, hinside, Option.bind_some]
    exact ihrest hholds (depth + 1)

end Unfolds

end SvgPage
