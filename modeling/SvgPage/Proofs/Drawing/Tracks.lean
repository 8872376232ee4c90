import SvgPage.Proofs.Drawing.Records
import SvgPage.Proofs.Table
import SvgPage.Proofs.Traversal.Tag

namespace SvgPage

/-- An open element as far as recordings are concerned: its name, whether its tags are recorded, and whether
    a recording ends with it. -/
structure Held where
  name : String
  recorded : Bool
  defines : Bool

namespace Recording

/-- A recording holds the start tag of an element, and content in which elements of the given names are
    open. -/
def Reads (recording : Recording) (name : String) (names : List String) : Prop :=
  ∃ attributes leadingText content,
    recording.events.toList = .startTag name attributes leadingText :: content ∧
      Tag.openAfter [] (content.map DefinitionEvent.tag) = some names

theorem Reads.push {recording : Recording} {name : String} {names after : List String}
    (h : recording.Reads name names) {event : DefinitionEvent}
    (hevent : Tag.openAfter names [event.tag] = some after) : (recording.push event).Reads name after := by
  obtain ⟨attributes, leadingText, content, hevents, hcontent⟩ := h
  refine ⟨attributes, leadingText, content ++ [event], ?_, ?_⟩
  · rw [Recording.push, Array.toList_push, hevents, List.cons_append]
  · rw [List.map_append, Tag.openAfter_append, hcontent, Option.bind_some]
    exact hevent

/-- What is recorded up to the end tag of an element is that element. -/
theorem Reads.isElement {recording : Recording} {name : String} (h : recording.Reads name [])
    (text : String) : DefinitionEvent.IsElement (recording.push (.endTag name text)).events.toList := by
  obtain ⟨attributes, leadingText, content, hevents, hcontent⟩ := h
  refine ⟨name, attributes, leadingText, content, text, ?_, hcontent⟩
  rw [Recording.push, Array.toList_push, hevents, List.cons_append]

end Recording

/-- The recordings are those of the open elements with a recording of their own, innermost first. Each holds
    what has been recorded since the start tag of its element, in which `names` and the recorded elements
    inside that element are open. -/
inductive Tracks : (names : List String) → List Held → List Recording → Prop
  | nil {names} : Tracks names [] []
  | skipped {names name outer recordings} (h : Tracks names outer recordings) :
      Tracks names (⟨name, false, false⟩ :: outer) recordings
  | shared {names name outer recordings} (h : Tracks (names ++ [name]) outer recordings) :
      Tracks names (⟨name, true, false⟩ :: outer) recordings
  | own {names name outer recording recordings} (hreads : recording.Reads name names)
      (h : Tracks (names ++ [name]) outer recordings) :
      Tracks names (⟨name, true, true⟩ :: outer) (recording :: recordings)

namespace Tracks

variable {names : List String} {held : List Held} {recordings : List Recording}

theorem length_eq (h : Tracks names held recordings) :
    recordings.length = held.countP Held.defines := by
  induction h with
  | nil => rfl
  | skipped h ih => exact ih
  | shared h ih => exact ih
  | own hreads h ih =>
    rw [List.length_cons, List.countP_cons_of_pos rfl, ih]

theorem push_start (h : Tracks names held recordings) (name : String) (attributes : Attributes)
    (text : String) :
    Tracks (name :: names) held (recordings.map (·.push (.startTag name attributes text))) := by
  induction h with
  | nil => exact .nil
  | skipped h ih => exact .skipped ih
  | shared h ih => exact .shared ih
  | own hreads h ih => exact .own (hreads.push rfl) ih

theorem push_stop {name : String} (h : Tracks (name :: names) held recordings) (text : String) :
    Tracks names held (recordings.map (·.push (.endTag name text))) := by
  generalize hopen : name :: names = inner at h
  induction h generalizing names with
  | nil => exact .nil
  | skipped h ih => exact .skipped (ih hopen)
  | shared h ih =>
    subst hopen
    exact .shared (ih rfl)
  | own hreads h ih =>
    subst hopen
    refine .own (hreads.push ?_) (ih rfl)
    rw [DefinitionEvent.tag, Tag.openAfter, if_pos rfl, Tag.openAfter]

theorem supersede (h : Tracks names held recordings) (id : String) :
    Tracks names held (recordings.map (·.supersede id)) := by
  induction h with
  | nil => exact .nil
  | skipped h ih => exact .skipped ih
  | shared h ih => exact .shared ih
  | own hreads h ih => exact .own hreads ih

end Tracks

/-- The element with the given name, as far as recordings are concerned. -/
def OpenElement.held {α : Type} (element : OpenElement α) (name : String) : Held :=
  ⟨name, element.recorded, element.defines⟩

namespace Document

variable {α : Type} {document result : Document α} {name : String} {held : List Held}

/-- After its start tag an element is held with what that tag has begun. -/
theorem Records.tracks {attributes : Attributes} {recorded defines : Bool}
    (h : Records document name attributes result recorded defines)
    (htracks : Tracks [] held document.recordings) :
    Tracks [] (⟨name, recorded, defines⟩ :: held) result.recordings := by
  cases h with
  | unrecorded => exact .skipped htracks
  | shared leadingText hreplay =>
    have hpushed := htracks.push_start name attributes leadingText
    cases hrecordings : document.recordings with
    | nil =>
      rw [hrecordings] at hpushed htracks
      rw [recordEvent, hrecordings]
      exact .skipped htracks
    | cons recording outer => exact .shared hpushed
  | own leadingText hreplay hid =>
    have hpushed := (htracks.push_start name attributes leadingText).supersede
    exact .own ⟨attributes, leadingText, [], rfl, rfl⟩ (hpushed _)

/-- An end tag leaves the definitions alone, or completes that of its element. -/
inductive Defines (before after : Table Definition) : Prop
  | same (h : after = before)
  | complete (id) {tags} (htags : DefinitionEvent.IsElement tags)
      (h : after = before.set id (.complete tags))

theorem Ends.tracks {element : OpenElement α} (h : Ends document element name result)
    (htracks : Tracks [] (element.held name :: held) document.recordings) :
    Tracks [] held result.recordings ∧ Defines document.definitions result.definitions := by
  obtain ⟨closed, hcloses, rfl⟩ := h
  have hrecordings : closed.recordings = _ := congrArg Archive.recordings hcloses.archive_eq
  have hdefinitions : closed.definitions = _ := congrArg Archive.definitions hcloses.archive_eq
  obtain ⟨closing, recorded, defines⟩ := element
  generalize hall : document.recordings = recordings at htracks
  cases htracks with
  | skipped htracks =>
    rw [← hall] at htracks
    exact ⟨hrecordings ▸ htracks, .same hdefinitions⟩
  | shared htracks =>
    rw [← hall] at htracks
    exact ⟨hrecordings ▸ htracks.push_stop _, .same hdefinitions⟩
  | @own _ _ _ recording outer hreads htracks =>
    have hpushed : closed.recordings =
        recording.push (.endTag name document.recordedText) ::
          outer.map (·.push (.endTag name document.recordedText)) := by
      rw [hrecordings]
      change document.recordings.map _ = _
      rw [hall]
      rfl
    have hsame : closed.definitions = document.definitions := hdefinitions
    simp only [if_true, finishRecording, hpushed]
    refine ⟨htracks.push_stop _, ?_⟩
    split
    · exact .same hsame
    · exact .complete recording.id (hreads.isElement document.recordedText) (hsame ▸ rfl)

end Document

end SvgPage
