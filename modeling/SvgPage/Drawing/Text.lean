import SvgPage.Drawing.Paint

namespace SvgPage

variable {α : Type} [Scalar α]

/-- The characters of a text as they are shown: runs of blanks become one space, and blanks are dropped
    at the start where they would follow another space, and at the end of the text. -/
def visibleText (pending : String) (atStart atEnd : Bool) : String :=
  let collapsed := Text.collapseBlanks pending
  let started := if atStart then Text.trimStart collapsed else collapsed
  if atEnd then Text.trimEnd started else started

/-- The run of text that a style lays out at a position given from the top of the page. -/
def TextRun.ofStyle (text : String) (x y : α) (style : Style α) : TextRun α where
  text
  x
  y
  anchor := .read (style.text .textAnchor)
  direction := .read (style.text .direction)
  font := ⟨style.text .fontFamily, style.fontSize, style.text .fontWeight, style.text .fontStyle⟩

/-- Shows a run of text in a color, with a graphics state of its own where opacity or blend mode change. -/
def showRun (frame : Frame α) (run : TextRun α) (color : DeviceColor α) (colorAlpha : α) :
    StateM (Ledger α) (List (Operator α)) := do
  let style := frame.style
  let alpha := frame.opacity * style.number .opacity * style.number .fillOpacity * colorAlpha
  let painted := .fillColor color :: run.operators
  let state ← graphicsState frame style alpha alpha
  return if state.isEmpty then painted else [.save] ++ state ++ painted ++ [.restore]

/-- Paints a run of text. Gradients paint it black. -/
def paintRun (frame : Frame α) (run : TextRun α) : StateM (Ledger α) (List (Operator α)) := do
  let style := frame.style
  if style.isInvisible || frame.hidden then
    return []
  match Paint.read (style.text .fill) style with
  | .none => return []
  | .gradient .. => showRun frame run (.gray 0) 1
  | .color token =>
    match ResolvedColor.read? token with
    | some resolved => showRun frame run resolved.color resolved.alpha
    | none =>
      Ledger.notify (.unknownTextColor token)
      return []

namespace Document

/-- Lays out and paints the characters that are pending, in the style of the current frame, and moves the
    text's position behind them. -/
def flushText (setting : Setting α) (document : Document α) (atEnd : Bool) :
    StateM (Ledger α) (Document α) := do
  match document.text with
  | none => return document
  | some state =>
    let value := visibleText state.pending state.collapse atEnd
    if value.isEmpty then
      return { document with text := some { state with pending := "" } }
    let run := TextRun.ofStyle value state.x (setting.pageHeight - state.y) document.frame.style
    Ledger.layOut run
    let advance := match run.direction with
      | .leftToRight => run.width
      | .rightToLeft => -run.width
    let next : TextState α :=
      { state with
        x := state.x + advance
        pending := ""
        collapse := value.toList.getLast? == some ' ' }
    return { document with text := some next }.write (← paintRun document.frame run)

/-- The first length of a list of positions. -/
def readPosition? (attributes : Attributes) (name : String) (reference : α)
    (context : Css.LengthContext α) : Option α := do
  let first ← (Text.splitList (Text.trim (← attributes.get? name))).head?
  Css.Length.read? first reference context

/-- The first number of a list of offsets, or zero. -/
def readShift (attributes : Attributes) (name : String) : α :=
  ((Css.readNumberList ((attributes.get? name).getD "")).head?).getD 0

/-- Opens a text with a graphics state and a position of its own. -/
def openText (setting : Setting α) (document : Document α) (attributes : Attributes) :
    StateM (Ledger α) (Document α × Closing α) := do
  let frame := document.frame
  let style := frame.style.resolve attributes setting.options.dpi
  let context := style.lengthContext setting.options.dpi
  let transform := Transform.read ((attributes.get? "transform").getD "")
  let clip ← clipRegion setting document style none
  let opened := document.write ([.save] ++ transform.operators setting.pageHeight ++ clip)
  let text : TextState α :=
    { depth := document.openElements.length
      x := (readPosition? attributes "x" frame.viewport.width context).getD 0 + readShift attributes "dx"
      y := (readPosition? attributes "y" frame.viewport.height context).getD 0 + readShift attributes "dy"
      pending := ""
      collapse := true }
  return ({ opened with text := some text }.enter
    { frame with style, ctm := frame.ctm.multiply transform }, .text frame document.text)

/-- Opens a part of a text: the characters before it are painted, and the position may move. Outside of a
    text it is a text of its own. -/
def openSpan (setting : Setting α) (document : Document α) (attributes : Attributes) :
    StateM (Ledger α) (Document α × Closing α) := do
  if document.text.isNone then
    return (← document.openText setting attributes)
  let frame := document.frame
  let style := frame.style.resolve attributes setting.options.dpi
  let context := style.lengthContext setting.options.dpi
  let flushed ← document.flushText setting false
  let moved := flushed.text.map fun state =>
    { state with
      x := (readPosition? attributes "x" frame.viewport.width context).getD state.x +
        readShift attributes "dx"
      y := (readPosition? attributes "y" frame.viewport.height context).getD state.y +
        readShift attributes "dy" }
  return ({ flushed with text := moved }.enter { frame with style }, .span frame)

end Document

end SvgPage
