import SvgPage.Drawing.Closing
import SvgPage.Proofs.Drawing.Opens

namespace SvgPage

variable {α : Type}

namespace Document

/-- All that undoing an element can do to a document. -/
inductive Closes (document : Document α) : Closing α → Document α → Prop
  | nothing : Closes document .nothing document
  | scope (frame) : Closes document (.scope frame) { document.write [.restore] with frame }
  | nestedSvg (frame) :
      Closes document (.nestedSvg frame)
        { document.write [.restore] with frame, svgDepth := document.svgDepth - 1 }
  | text (frame outer) {operators} (hblock : Block operators) :
      Closes document (.text frame outer)
        { document.write (operators ++ [.restore]) with frame, text := outer }
  | span (frame) {operators text} (hblock : Block operators)
      (hdepth : text.map TextState.depth = document.text.map TextState.depth) :
      Closes document (.span frame) { document.write operators with frame, text }
  | gradient : Closes document .gradient { document with openGradient := none }
  | clipPath : Closes document .clipPath { document with clip := none }
  | clipElement (matrix) :
      Closes document (.clipElement matrix)
        { document with clip := document.clip.map fun clip => { clip with matrix } }
  | definitions :
      Closes document .definitions { document with definitionsDepth := document.definitionsDepth - 1 }

theorem write_append (document : Document α) (first second : List (Operator α)) :
    (document.write first).write second = document.write (first ++ second) := by
  have houtput : document.output ++ first ++ second = document.output ++ (first ++ second) :=
    Array.ext' (by simp)
  simp only [write, houtput]

variable [Scalar α]

/-- The characters that are pending are painted at most. -/
theorem flushText_pending (setting : Setting α) (document : Document α) (atEnd : Bool) (ledger : Ledger α) :
    ∃ operators text, Block operators ∧
      text.map TextState.depth = document.text.map TextState.depth ∧
      (document.flushText setting atEnd ledger).1 = { document.write operators with text } := by
  obtain htext | ⟨state, htext⟩ := Option.eq_none_or_eq_some document.text
  · have hsame : (document.flushText setting atEnd ledger).1 = document := by
      simp only [flushText, htext, pure_apply]
    refine ⟨[], document.text, .nil, rfl, ?_⟩
    rw [write_nil]
    exact hsame
  · obtain ⟨operators, next, hblock, hdepth, hflushed⟩ := flushText_eq setting htext atEnd ledger
    refine ⟨operators, some next, hblock, ?_, hflushed⟩
    rw [htext, Option.map_some, Option.map_some, hdepth]

theorem close_closes (setting : Setting α) (document : Document α) (closing : Closing α) (ledger : Ledger α) :
    Closes document closing (document.close setting closing ledger).1 := by
  cases closing with
  | nothing => exact .nothing
  | scope previous => exact .scope previous
  | nestedSvg previous => exact .nestedSvg previous
  | text previous outer =>
    obtain ⟨operators, text, hblock, -, hflushed⟩ := flushText_pending setting document true ledger
    have hclosed : Closes document (.text previous outer) _ := .text previous outer hblock
    rw [← write_append] at hclosed
    simp only [close, bind_apply, pure_apply, hflushed]
    exact hclosed
  | span previous =>
    obtain ⟨operators, text, hblock, hdepth, hflushed⟩ := flushText_pending setting document false ledger
    simp only [close, bind_apply, pure_apply, hflushed]
    exact .span previous hblock hdepth
  | gradient => exact .gradient
  | clipPath => exact .clipPath
  | clipElement matrix => exact .clipElement matrix
  | definitions => exact .definitions

end Document

/-- What an element sees of the elements around it: the frame, how many of them hold definitions or are
    nested `svg` elements, the clip path they belong to, and the text they are part of. -/
structure Scope (α : Type) where
  frame : Frame α
  definitionsDepth : Nat
  svgDepth : Nat
  clip : Option (ClipCapture α)
  text : Option Nat

/-- Where a document stands: whether its root has been opened, the elements that are open, and the uses
    that are being expanded. -/
structure Standing (α : Type) where
  rootSeen : Bool
  openElements : List (OpenElement α)
  expanding : List String
  replayDepth : Nat

/-- What is recorded of a document. -/
structure Archive where
  definitions : Table Definition
  recordings : List Recording
  recordedText : String

def Document.standing (document : Document α) : Standing α where
  rootSeen := document.rootSeen
  openElements := document.openElements
  expanding := document.expanding
  replayDepth := document.replayDepth

def Document.archive (document : Document α) : Archive where
  definitions := document.definitions
  recordings := document.recordings
  recordedText := document.recordedText

def Document.scope (document : Document α) : Scope α where
  frame := document.frame
  definitionsDepth := document.definitionsDepth
  svgDepth := document.svgDepth
  clip := document.clip
  text := document.text.map TextState.depth

namespace Closing

/-- The scope around an element, from the one inside it. -/
def undo (closing : Closing α) (scope : Scope α) : Scope α :=
  match closing with
  | nothing | gradient => scope
  | .scope frame => { scope with frame }
  | nestedSvg frame => { scope with frame, svgDepth := scope.svgDepth - 1 }
  | text frame outer => { scope with frame, text := outer.map TextState.depth }
  | span frame => { scope with frame }
  | clipPath => { scope with clip := none }
  | clipElement matrix => { scope with clip := scope.clip.map fun clip => { clip with matrix } }
  | definitions => { scope with definitionsDepth := scope.definitionsDepth - 1 }

def isGradient : Closing α → Bool
  | gradient => true
  | _ => false

end Closing

/-- What an element is to undo at its end tag once it is open. -/
def Opening.closing : Opening α → Closing α
  | .element closing => closing
  | .expansion .. | .embedding .. => .nothing

namespace Document

variable {setting : Setting α} {document result : Document α} {kind : ElementKind} {opening : Opening α}

/-- An element remembers all that its start tag changes in the scope. -/
theorem Opens.undo_scope (h : Opens setting document kind result opening) :
    opening.closing.undo result.scope = document.scope := by
  cases h with
  | clipPath generated clipPaths clip hclip =>
    simp only [Opening.closing, Closing.undo, scope, hclip]
  | clipElement clipPaths matrix hclip =>
    simp only [Opening.closing, Closing.undo, scope, hclip, Option.map_some]
  | span frame hdrawing htext hdepth hblock =>
    simp only [Opening.closing, Closing.undo, scope, htext, Option.map_some, hdepth]
    rfl
  | _ => rfl

theorem Opens.standing_eq (h : Opens setting document kind result opening) :
    result.standing = document.standing := by
  cases h <;> rfl

theorem Opens.archive_eq (h : Opens setting document kind result opening) :
    result.archive = document.archive := by
  cases h <;> rfl

theorem Closes.standing_eq {closing : Closing α} (h : Closes document closing result) :
    result.standing = document.standing := by
  cases h <;> rfl

theorem Closes.archive_eq {closing : Closing α} (h : Closes document closing result) :
    result.archive = document.archive := by
  cases h <;> rfl

/-- Only gradients change which gradient is open. -/
theorem Opens.openGradient_eq (h : Opens setting document kind result opening)
    (hclosing : opening.closing.isGradient = false) : result.openGradient = document.openGradient := by
  cases h with
  | gradient generated gradients id => cases hclosing
  | _ => rfl

theorem Closes.openGradient_eq {closing : Closing α} (h : Closes document closing result) :
    result.openGradient = if closing.isGradient then none else document.openGradient := by
  cases h <;> rfl

theorem Closes.scope_eq {closing : Closing α} (h : Closes document closing result) :
    result.scope = closing.undo document.scope := by
  cases h with
  | span frame hblock hdepth =>
    simp only [Closing.undo, Document.scope, hdepth]
    rfl
  | _ => rfl

end Document

end SvgPage
