import SvgPage.DataUri
import SvgPage.Drawing.Clip
import SvgPage.Drawing.Record
import SvgPage.Drawing.Text
import SvgPage.Drawing.Viewport
import SvgPage.Element.Use
import SvgPage.Text.Utf8

namespace SvgPage

/-- What the start tag of an element comes to. -/
inductive Opening (α : Type) where
  /-- The element is open. -/
  | element (closing : Closing α)
  /-- Before it is open, the tags of the element with an id are handled. -/
  | expansion (id : String) (tags : List DefinitionEvent)
  /-- Before it is open, a document is drawn. -/
  | embedding (setting : Setting α) (markup : String)

/-- A start tag that has been handled: what it comes to, whether the tags of the element are recorded, and
    whether a recording ends with it. -/
structure Begun (α : Type) where
  opening : Opening α
  recorded : Bool
  defines : Bool

namespace Opening

variable {α : Type}

/-- An element that does nothing to its content. -/
def inert : Opening α := element .nothing

/-- Leaves out what an element asks for. -/
def leaveOut (notice : Notice α) : StateM (Ledger α) (Opening α) := do
  Ledger.notify notice
  return inert

end Opening

namespace Document

variable {α : Type} [Scalar α]

/-- What the id in the reference of a `use` stands for. -/
def findUse? (document : Document α) (attributes : Attributes) : Option (String × Definition) := do
  let id ← attributes.href? >>= Css.readLink?
  return (id, ← document.definitions.get? id)

/-- Handles a `use`: the tags of the element it refers to are to be handled again, the first one with the
    attributes of both. References that lead nowhere, to an element around the `use`, or deeper than the
    limit allows are left out. -/
def openUse (setting : Setting α) (document : Document α) (attributes : Attributes) :
    StateM (Ledger α) (Opening α) :=
  match document.findUse? attributes with
  | none => Opening.leaveOut (.unresolvedUse attributes.href?)
  | some (id, .pending) => Opening.leaveOut (.cyclicUse id)
  | some (id, .complete tags) =>
    if document.expanding.contains id then
      Opening.leaveOut (.cyclicUse id)
    else if setting.options.nesting.isReached document.expanding.length then
      Opening.leaveOut (.deepUse id setting.options.nesting.text)
    else
      match tags with
      | .startTag name own _ :: rest =>
        let (name, merged) := Use.merge α name own attributes
        return .expansion id (.startTag name merged "" :: rest)
      | _ => return .inert

/-- Handles an image that refers to a document, which is to be drawn into a box of the image's user
    space. -/
def openEmbedded (setting : Setting α) (href : String) (box : Box α) (matrix : Matrix α) :
    StateM (Ledger α) (Opening α) :=
  if setting.options.nesting.documentLevels ≤ setting.depth then
    Opening.leaveOut (.deepDocument setting.options.nesting.text)
  else
    match setting.options.load href with
    | none => Opening.leaveOut (.missingDocument href)
    | some bytes =>
      let inner : Setting α :=
        { setting with
          depth := setting.depth + 1
          placement := ⟨matrix.multiply (.shift box.x box.y), box.size⟩ }
      return .embedding inner (Utf8.decodeText bytes)

/-- Handles an image. One without extent or that is hidden is not even loaded. -/
def openImage (setting : Setting α) (document : Document α) (attributes : Attributes) :
    StateM (Ledger α) (Document α × Opening α) := do
  let frame := document.frame
  let style := frame.style.resolve attributes setting.options.dpi
  let context := document.shapeContext setting style
  let box : Box α :=
    ⟨context.horizontal attributes "x", context.vertical attributes "y",
      context.horizontal attributes "width", context.vertical attributes "height"⟩
  let href := Text.trim (attributes.href?.getD "")
  if href.isEmpty || box.width ≤ 0 || box.height ≤ 0 || style.isInvisible || frame.hidden then
    return (document, .inert)
  let transform := Transform.read ((attributes.get? "transform").getD "")
  if isDocumentReference href then
    return (document, ← openEmbedded setting href box (frame.ctm.multiply transform))
  else
    match setting.options.load href with
    | none => return (document, ← Opening.leaveOut (.missingImage href))
    | some bytes => return (← document.drawPixels setting style transform box bytes, .inert)

/-- An element that a handler has opened. -/
def opened (handler : StateM (Ledger α) (Document α × Closing α)) :
    StateM (Ledger α) (Document α × Opening α) := do
  let (document, closing) ← handler
  return (document, .element closing)

/-- Handles an element that is drawn. -/
def openDrawn (setting : Setting α) (document : Document α) (kind : ElementKind)
    (attributes : Attributes) : StateM (Ledger α) (Document α × Opening α) := do
  match kind with
  | .svg => opened (document.openNestedSvg setting attributes)
  | .group => opened (document.openGroup setting attributes)
  | .text => opened (document.openText setting attributes)
  | .span => opened (document.openSpan setting attributes)
  | .use => return (document, ← document.openUse setting attributes)
  | .shape shape => return (← document.drawShape setting shape attributes, .inert)
  | .image => document.openImage setting attributes
  | _ => return (document, .inert)

/-- Handles an element by its kind and by what surrounds it. Gradients count everywhere except in clip
    paths. In a clip path everything else is a part of it, and in definitions nothing else is drawn. -/
def openElement (setting : Setting α) (document : Document α) (kind : ElementKind)
    (attributes : Attributes) : StateM (Ledger α) (Document α × Opening α) := do
  match document.clip, kind with
  | some _, .gradient _ | some _, .stop | some _, .clipPath => return (document, .inert)
  | some _, .use => return (document, ← document.openUse setting attributes)
  | some clip, kind => opened (pure (document.openClipElement setting clip kind attributes))
  | none, .gradient gradient =>
    return (document.openGradientElement gradient attributes, .element .gradient)
  | none, .stop => return (document.addStop setting attributes, .inert)
  | none, .clipPath => return (document.openClipPath attributes, .element .clipPath)
  | none, .defs | none, .symbol =>
    return ({ document with definitionsDepth := document.definitionsDepth + 1 },
      .element .definitions)
  | none, kind =>
    if 0 < document.definitionsDepth then return (document, .inert)
    document.openDrawn setting kind attributes

/-- Handles the start tag of an element inside the root, which is recorded first. -/
def beginTag (setting : Setting α) (document : Document α) (name : String) (attributes : Attributes) :
    StateM (Ledger α) (Document α × Begun α) := do
  let kind := ElementKind.ofName name
  let (document, recorded, defines) := document.recordStart name attributes kind
  let (document, opening) ← document.openElement setting kind attributes
  return (document, ⟨opening, recorded, defines⟩)

/-- Pushes an element on the stack of those that are open. -/
def push (document : Document α) (element : OpenElement α) : Document α :=
  { document with openElements := element :: document.openElements }

end Document

end SvgPage
