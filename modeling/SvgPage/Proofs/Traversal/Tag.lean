import Mathlib.Data.List.Basic
import SvgPage.Drawing.Document
import SvgPage.Markup.Event

namespace SvgPage

/-- A start or end tag, of which only the name counts. -/
inductive Tag where
  | start (name : String)
  | stop (name : String)
deriving DecidableEq, Repr

namespace Tag

/-- The names of the elements that are open after tags, innermost first. There are none if an end tag
    closes another element than the innermost one. -/
def openAfter : (names : List String) → List Tag → Option (List String)
  | names, [] => some names
  | names, start name :: rest => openAfter (name :: names) rest
  | [], stop _ :: _ => none
  | innermost :: outer, stop name :: rest => if name = innermost then openAfter outer rest else none

/-- How many elements are open after tags, whatever their names. -/
def depthAfter : (depth : Nat) → List Tag → Option Nat
  | depth, [] => some depth
  | depth, start _ :: rest => depthAfter (depth + 1) rest
  | 0, stop _ :: _ => none
  | depth + 1, stop _ :: rest => depthAfter depth rest

/-- How many start tags there are. -/
def startCount (tags : List Tag) : Nat := tags.countP fun | start _ => true | stop _ => false

/-- How many end tags there are. -/
def stopCount (tags : List Tag) : Nat := tags.countP fun | start _ => false | stop _ => true

theorem openAfter_append (names : List String) (first second : List Tag) :
    openAfter names (first ++ second) = (openAfter names first).bind (openAfter · second) := by
  induction first generalizing names with
  | nil => rfl
  | cons tag rest ih =>
    cases tag with
    | start name => exact ih (name :: names)
    | stop name =>
      cases names with
      | nil => rfl
      | cons innermost outer =>
        simp only [List.cons_append, openAfter]
        by_cases hname : name = innermost
        · simpa only [if_pos hname] using ih outer
        · simp only [if_neg hname, Option.bind_none]

/-- Elements around those that tags close stay open. -/
theorem openAfter_append_names {names after : List String} {tags : List Tag}
    (h : openAfter names tags = some after) (outer : List String) :
    openAfter (names ++ outer) tags = some (after ++ outer) := by
  induction tags generalizing names with
  | nil =>
    cases h
    rfl
  | cons tag rest ih =>
    cases tag with
    | start name => exact ih h
    | stop name =>
      cases names with
      | nil => cases h
      | cons innermost others =>
        simp only [openAfter] at h
        by_cases hname : name = innermost
        · rw [if_pos hname] at h
          simpa only [List.cons_append, openAfter, if_pos hname] using ih h
        · rw [if_neg hname] at h
          cases h

theorem ne_nil_of_openAfter {name : String} {names : List String} {tags : List Tag}
    (h : openAfter [] tags = some (name :: names)) : tags ≠ [] := by
  rintro rfl
  cases h

theorem depthAfter_of_openAfter {names after : List String} {tags : List Tag}
    (h : openAfter names tags = some after) : depthAfter names.length tags = some after.length := by
  induction tags generalizing names with
  | nil =>
    cases h
    rfl
  | cons tag rest ih =>
    cases tag with
    | start name => exact ih h
    | stop name =>
      cases names with
      | nil => cases h
      | cons innermost outer =>
        simp only [openAfter] at h
        by_cases hname : name = innermost
        · rw [if_pos hname] at h
          exact ih h
        · rw [if_neg hname] at h
          cases h

/-- Each element is opened by a start tag, and is either closed by an end tag or still open. -/
theorem startCount_of_openAfter {names after : List String} {tags : List Tag}
    (h : openAfter names tags = some after) :
    names.length + startCount tags = after.length + stopCount tags := by
  induction tags generalizing names with
  | nil =>
    cases h
    rfl
  | cons tag rest ih =>
    cases tag with
    | start name =>
      have hrest := ih h
      simp only [List.length_cons] at hrest
      simp only [startCount, stopCount, List.countP_cons] at hrest ⊢
      simp only [if_true, Bool.false_eq_true, if_false]
      omega
    | stop name =>
      cases names with
      | nil => cases h
      | cons innermost outer =>
        simp only [openAfter] at h
        by_cases hname : name = innermost
        · rw [if_pos hname] at h
          have hrest := ih h
          simp only [startCount, stopCount, List.countP_cons, List.length_cons] at hrest ⊢
          simp only [if_true, Bool.false_eq_true, if_false]
          omega
        · rw [if_neg hname] at h
          cases h

end Tag

/-- The tag of an event; text has none. -/
def MarkupEvent.tag? : MarkupEvent → Option Tag
  | startTag name _ => some (.start name)
  | endTag name => some (.stop name)
  | text _ => none

def DefinitionEvent.tag : DefinitionEvent → Tag
  | startTag name _ _ => .start name
  | endTag name _ => .stop name

namespace MarkupEvent

/-- The tags of events. -/
def tags (events : List MarkupEvent) : List Tag := events.filterMap tag?

theorem tags_append (first second : List MarkupEvent) : tags (first ++ second) = tags first ++ tags second :=
  List.filterMap_append

theorem tags_text (text : String) : tags [.text text] = [] := rfl

theorem isEmpty_tags_append_endTag (before : List MarkupEvent) (name : String) :
    (tags (before ++ [.endTag name])).isEmpty = false := by
  rw [tags_append]
  exact List.isEmpty_eq_false_iff.2 (List.append_ne_nil_of_right_ne_nil _ (List.cons_ne_nil _ _))

/-- The events of one element: its start tag, content in which all tags match, and its end tag. -/
def IsElement (events : List MarkupEvent) : Prop :=
  ∃ name attributes content, events = .startTag name attributes :: (content ++ [.endTag name]) ∧
    Tag.openAfter [] (tags content) = some []

/-- The events of a well-formed document: those of its root, with text alone before and after it. -/
def IsDocument (events : List MarkupEvent) : Prop :=
  ∃ before root after, events = before ++ root ++ after ∧ tags before = [] ∧ IsElement root ∧
    tags after = []

theorem IsElement.openAfter {events : List MarkupEvent} (h : IsElement events) (names : List String) :
    Tag.openAfter names (tags events) = some names := by
  obtain ⟨name, attributes, content, rfl, hcontent⟩ := h
  have hinside := Tag.openAfter_append_names hcontent (name :: names)
  have htags : tags (.startTag name attributes :: (content ++ [.endTag name])) =
      .start name :: (tags content ++ [.stop name]) := by
    simp [tags, tag?, List.filterMap_append]
  rw [htags, Tag.openAfter, Tag.openAfter_append]
  simp only [List.nil_append] at hinside
  simp [hinside, Tag.openAfter]

theorem IsDocument.openAfter {events : List MarkupEvent} (h : IsDocument events) :
    Tag.openAfter [] (tags events) = some [] := by
  obtain ⟨before, root, after, rfl, hbefore, hroot, hafter⟩ := h
  rw [tags_append, tags_append, hbefore, hafter, List.nil_append, List.append_nil]
  exact hroot.openAfter []

theorem IsDocument.tags_ne_nil {events : List MarkupEvent} (h : IsDocument events) : tags events ≠ [] := by
  obtain ⟨before, root, after, rfl, hbefore, ⟨name, attributes, content, rfl, hcontent⟩, hafter⟩ := h
  rw [tags_append, tags_append, hbefore, hafter, List.append_nil, List.nil_append]
  exact List.cons_ne_nil _ _

/-- What is open after part of the events is closed by the others. -/
theorem IsDocument.openAfter_rest {events before after : List MarkupEvent} {names : List String}
    (h : IsDocument events) (hsplit : events = before ++ after)
    (hnames : Tag.openAfter [] (tags before) = some names) : Tag.openAfter names (tags after) = some [] := by
  have hall := h.openAfter
  rwa [hsplit, tags_append, Tag.openAfter_append, hnames, Option.bind_some] at hall

/-- Every start tag but that of the root is inside the root. -/
theorem IsDocument.openAfter_ne_nil {events before after : List MarkupEvent} {name : String}
    {attributes : Attributes} (h : IsDocument events)
    (hsplit : events = before ++ .startTag name attributes :: after)
    (hbefore : tags before ≠ []) : Tag.openAfter [] (tags before) ≠ some [] := by
  obtain ⟨leading, root, trailing, rfl, hleading, hroot, htrailing⟩ := h
  obtain ⟨rootName, rootAttributes, content, rfl, hcontent⟩ := hroot
  have htags := congrArg tags hsplit
  have hroot : tags (.startTag rootName rootAttributes :: (content ++ [.endTag rootName])) =
      .start rootName :: (tags content ++ [.stop rootName]) := by
    simp [tags, tag?, List.filterMap_append]
  have hstart : tags (.startTag name attributes :: after) = .start name :: tags after := rfl
  rw [tags_append, tags_append, tags_append, hleading, htrailing, List.nil_append, List.append_nil, hroot,
    hstart] at htags
  obtain ⟨first, inner, hinner⟩ := List.exists_cons_of_ne_nil hbefore
  rw [hinner, List.cons_append] at htags
  obtain ⟨hfirst, hcontents⟩ := List.cons.inj htags
  obtain ⟨names, hnames⟩ : ∃ names, Tag.openAfter [] inner = some names := by
    obtain ⟨rest, -, hrest⟩ | ⟨rest, hrest, -⟩ := List.append_eq_append_iff.1 hcontents
    · cases rest with
      | nil => cases hrest
      | cons tag rest => simp at hrest
    · rw [hrest, Tag.openAfter_append] at hcontent
      obtain ⟨names, hnames, -⟩ := Option.bind_eq_some_iff.1 hcontent
      exact ⟨names, hnames⟩
  have hinside := Tag.openAfter_append_names hnames [rootName]
  rw [List.nil_append] at hinside
  rw [hinner, ← hfirst, Tag.openAfter, hinside]
  simp

end MarkupEvent

namespace DefinitionEvent

/-- The recorded tags of one element: its start tag, content in which all tags match, and the end tag of
    the same name. -/
def IsElement (tags : List DefinitionEvent) : Prop :=
  ∃ name attributes leadingText content lastText, tags =
      .startTag name attributes leadingText :: (content ++ [.endTag name lastText]) ∧
    Tag.openAfter [] (content.map tag) = some []

/-- After every proper part of an element that begins with its start tag, the element is open. -/
theorem IsElement.stopCount_lt_startCount {tags before after : List DefinitionEvent} (h : IsElement tags)
    (hsplit : tags = before ++ after) (hbefore : before ≠ []) (hafter : after ≠ []) :
    Tag.stopCount (before.map tag) < Tag.startCount (before.map tag) := by
  obtain ⟨name, attributes, leadingText, content, lastText, rfl, hcontent⟩ := h
  obtain ⟨first, inner, rfl⟩ := List.exists_cons_of_ne_nil hbefore
  rw [List.cons_append] at hsplit
  obtain ⟨hfirst, hinner⟩ := List.cons.inj hsplit
  obtain ⟨init, last, rfl⟩ := (List.eq_nil_or_concat' after).resolve_left hafter
  rw [← List.append_assoc] at hinner
  obtain ⟨hinit, -⟩ := List.append_inj' hinner rfl
  rw [hinit, List.map_append, Tag.openAfter_append] at hcontent
  obtain ⟨names, hnames, -⟩ := Option.bind_eq_some_iff.1 hcontent
  have hcount := Tag.startCount_of_openAfter hnames
  subst hfirst
  simp only [List.map_cons, tag, Tag.startCount, Tag.stopCount, List.countP_cons] at hcount ⊢
  simp only [if_true, Bool.false_eq_true, if_false]
  simp only [List.length_nil] at hcount
  omega

end DefinitionEvent

end SvgPage
