import SvgPage.Drawing.Record
import SvgPage.Drawing.Text

namespace SvgPage.Document

variable {α : Type} [Scalar α]

/-- Gives back the graphics state and the frame that an element has saved. -/
def leave (document : Document α) (frame : Frame α) : Document α :=
  { document.write [.restore] with frame }

/-- Undoes at the end tag of an element what its start tag has done. -/
def close (setting : Setting α) (document : Document α) (closing : Closing α) :
    StateM (Ledger α) (Document α) := do
  match closing with
  | .nothing => return document
  | .scope previous => return document.leave previous
  | .nestedSvg previous =>
    return { document.leave previous with svgDepth := document.svgDepth - 1 }
  | .text previous outer =>
    let flushed ← document.flushText setting true
    return { flushed.leave previous with text := outer }
  | .span previous =>
    let flushed ← document.flushText setting false
    return { flushed with frame := previous }
  | .gradient => return { document with openGradient := none }
  | .clipPath => return { document with clip := none }
  | .clipElement matrix =>
    return { document with clip := document.clip.map fun clip => { clip with matrix } }
  | .definitions => return { document with definitionsDepth := document.definitionsDepth - 1 }

/-- Ends an element that has been taken from the stack: its end tag is recorded before anything is undone,
    and its own recording ends last. -/
def endElement (setting : Setting α) (document : Document α) (element : OpenElement α) (name : String) :
    StateM (Ledger α) (Document α) := do
  let recorded := if element.recorded then document.recordEnd name else document
  let closed ← recorded.close setting element.closing
  return if element.defines then closed.finishRecording else closed

end SvgPage.Document
