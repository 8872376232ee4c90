import SvgPage.Drawing.Document
import SvgPage.Element.Kind

namespace SvgPage

/-- Whether elements of a kind can be part of a definition. -/
def ElementKind.isRecorded : ElementKind → Bool
  | gradient _ | stop | clipPath => false
  | _ => true

namespace Recording

def push (recording : Recording) (event : DefinitionEvent) : Recording :=
  { recording with events := recording.events.push event }

/-- Another element takes an id. -/
def supersede (recording : Recording) (id : String) : Recording :=
  { recording with superseded := recording.superseded || recording.id == id }

end Recording

namespace Document

variable {α : Type}

def recordEvent (document : Document α) (event : DefinitionEvent) : Document α :=
  { document with
    recordings := document.recordings.map (·.push event)
    recordedText := "" }

/-- Records a start tag for all open elements with an id, and begins a recording for an element that has
    one. Nothing is recorded while uses are expanded or clip shapes collected. The answer tells whether
    the tag is recorded, and whether a recording begins with it. -/
def recordStart (document : Document α) (name : String) (attributes : Attributes) (kind : ElementKind) :
    Document α × Bool × Bool :=
  if 0 < document.replayDepth || document.clip.isSome || !kind.isRecorded then
    (document, false, false)
  else
    let leadingText := if document.recordings.isEmpty then "" else document.recordedText
    let event := DefinitionEvent.startTag name attributes leadingText
    let recorded := document.recordEvent event
    match (attributes.get? "id").filter (!·.isEmpty) with
    | none => (recorded, !document.recordings.isEmpty, false)
    | some id =>
      ({ recorded with
          definitions := recorded.definitions.set id .pending
          recordings := ⟨id, #[event], false⟩ :: recorded.recordings.map (·.supersede id) }, true, true)

/-- Records an end tag. -/
def recordEnd (document : Document α) (name : String) : Document α :=
  document.recordEvent (.endTag name document.recordedText)

/-- Ends the innermost recording. From now on its id stands for what it holds. -/
def finishRecording (document : Document α) : Document α :=
  match document.recordings with
  | [] => document
  | recording :: outer =>
    { document with
      definitions :=
        if recording.superseded then document.definitions
        else document.definitions.set recording.id (.complete recording.events.toList)
      recordings := outer
      recordedText := if outer.isEmpty then "" else document.recordedText }

/-- Keeps characters for the next recorded tag, and for the text that is being laid out. -/
def addText (document : Document α) (text : String) : Document α :=
  let recorded :=
    if !document.recordings.isEmpty && document.replayDepth == 0 && document.clip.isNone then
      { document with recordedText := document.recordedText ++ text }
    else
      document
  match document.text, document.isDrawing with
  | some state, true =>
    { recorded with text := some { state with pending := state.pending ++ text } }
  | _, _ => recorded

end Document

end SvgPage
