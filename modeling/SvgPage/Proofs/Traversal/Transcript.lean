import SvgPage.Proofs.Traversal.Stage
import SvgPage.Proofs.Traversal.Tag

namespace SvgPage.MarkupEvent

/-- The tags of events with the characters before each of them, and the characters after the last one. Some
    characters come before the events. How characters are split does not matter. -/
def transcript (text : String) : List MarkupEvent → List DefinitionEvent × String
  | [] => ([], text)
  | .text more :: rest => transcript (text ++ more) rest
  | .startTag name attributes :: rest =>
    let (tags, last) := transcript "" rest
    (.startTag name attributes text :: tags, last)
  | .endTag name :: rest =>
    let (tags, last) := transcript "" rest
    (.endTag name text :: tags, last)

theorem transcript_tags (text : String) (events : List MarkupEvent) :
    (transcript text events).1.map DefinitionEvent.tag = tags events := by
  induction events generalizing text with
  | nil => rfl
  | cons event rest ih =>
    cases event with
    | text more => exact ih (text ++ more)
    | startTag name attributes => exact congrArg (Tag.start name :: ·) (ih "")
    | endTag name => exact congrArg (Tag.stop name :: ·) (ih "")

theorem transcript_append_endTag (text : String) (events : List MarkupEvent) (name : String) :
    transcript text (events ++ [.endTag name]) =
      ((transcript text events).1 ++ [.endTag name (transcript text events).2], "") := by
  induction events generalizing text with
  | nil => rfl
  | cons event rest ih =>
    cases event with
    | text more => exact ih (text ++ more)
    | startTag name attributes => simp only [List.cons_append, transcript, ih]
    | endTag name => simp only [List.cons_append, transcript, ih]

/-- A transcript has the tags of the events, and nothing else. -/
theorem transcript_events (text : String) (events : List MarkupEvent) :
    (transcript text events).1.map DefinitionEvent.event = events.filter fun event => event.tag?.isSome := by
  induction events generalizing text with
  | nil => rfl
  | cons event rest ih =>
    cases event with
    | text more => exact ih (text ++ more)
    | startTag name attributes => exact congrArg (MarkupEvent.startTag name attributes :: ·) (ih "")
    | endTag name => exact congrArg (MarkupEvent.endTag name :: ·) (ih "")

/-- Events with the same transcript have the same start tags. -/
theorem startTag_mem_of_transcript {text other name : String} {attributes : Attributes}
    {first second : List MarkupEvent} (h : transcript text first = transcript other second)
    (hmem : .startTag name attributes ∈ first) : .startTag name attributes ∈ second := by
  have hfilter := transcript_events text first
  rw [h, transcript_events other second] at hfilter
  have htag : MarkupEvent.startTag name attributes ∈ first.filter fun event => event.tag?.isSome :=
    List.mem_filter.2 ⟨hmem, rfl⟩
  exact (List.mem_filter.1 (hfilter ▸ htag)).1

end SvgPage.MarkupEvent
