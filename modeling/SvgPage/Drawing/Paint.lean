import SvgPage.Color.Read
import SvgPage.Content.Outline
import SvgPage.Css.ClipInsets
import SvgPage.Drawing.Document
import SvgPage.Element.Shape

namespace SvgPage

variable {α : Type} [Scalar α]

/-- The operator that applies a map given in top-down coordinates, unless it changes nothing. -/
def Matrix.operators (matrix : Matrix α) (pageHeight : α) : List (Operator α) :=
  if matrix.isIdentity then [] else [.transform (matrix.flip pageHeight)]

/-- The operators that clip to a rectangle given in top-down coordinates. -/
def Box.clipOperators (box : Box α) (pageHeight : α) : List (Operator α) :=
  [.rect ⟨box.x, pageHeight - box.y - box.height, box.width, box.height⟩, .paint .clip]

/-- The mode in force for content with a mode of its own. The normal one leaves the mode around it. -/
def Frame.blend (frame : Frame α) (own : BlendMode) : BlendMode :=
  if own == .normal then frame.blendMode else own

/-- Sets opacity and blend mode, unless they are in force already. -/
def graphicsState (frame : Frame α) (style : Style α) (fillAlpha strokeAlpha : α) :
    StateM (Ledger α) (List (Operator α)) := do
  if fillAlpha == frame.opacity && strokeAlpha == frame.opacity && style.blendMode == .normal then
    return []
  let number ← Ledger.register (.graphicsState fillAlpha strokeAlpha (frame.blend style.blendMode))
  return [.graphicsState number]

/-- Clips to the shapes of a clip path. One without shapes leaves nothing visible. -/
def clipShapes (pageHeight : α) : List (ClipShape α) → List (Operator α)
  | [] => [.rect ⟨0, 0, 0, 0⟩, .paint .clip]
  | first :: rest =>
    (first :: rest).flatMap (fun shape => shape.path.operators pageHeight shape.matrix) ++
      [.paint (if first.evenOdd then .clipEvenOdd else .clip)]

/-- Clips to what lies inside a box by the given insets. -/
def clipInsets (pageHeight : α) (box : Box α) (insets : Css.ClipInsets α) : List (Operator α) :=
  Box.clipOperators
    ⟨box.x + insets.left, box.y + insets.top, box.width - insets.left - insets.right,
      box.height - insets.top - insets.bottom⟩ pageHeight

/-- Clips to the clip path of an element, and to the rectangle its style gives inside its box. -/
def clipRegion (setting : Setting α) (document : Document α) (style : Style α) (box : Option (Box α)) :
    StateM (Ledger α) (List (Operator α)) := do
  let shapes ←
    match Css.UrlReference.read? (style.text .clipPath) with
    | none => pure []
    | some reference =>
      match document.clipPaths.get? reference.id with
      | none =>
        Ledger.notify (.unknownClipPath reference.id)
        pure []
      | some shapes => pure (clipShapes setting.pageHeight shapes)
  let insets := box.bind fun box =>
    (Css.ClipInsets.read? (style.text .clip) (style.lengthContext setting.options.dpi)).map
      (clipInsets setting.pageHeight box)
  return shapes ++ insets.getD []

/-- What an area or a line is painted with. -/
inductive ResolvedPaint (α : Type) where
  | none
  | color (resolved : ResolvedColor α)
  | gradient (resolved : ResolvedGradient α)

namespace ResolvedPaint

def ofColor (token : String) : StateM (Ledger α) (ResolvedPaint α) := do
  match ResolvedColor.read? token with
  | some resolved => return color resolved
  | Option.none =>
    Ledger.notify (.unknownColor token)
    return none

/-- Finds the paint of a `fill` or `stroke` value for an element with the given box. The fallback of a
    gradient counts if the gradient cannot be painted. -/
def read (setting : Setting α) (document : Document α) (value : String) (style : Style α) (box : Box α) :
    StateM (Ledger α) (ResolvedPaint α) := do
  match Paint.read value style with
  | .none => return none
  | .color token => ofColor token
  | .gradient id fallback =>
    let target : GradientTarget α :=
      ⟨box, setting.pageHeight, style.lengthContext setting.options.dpi⟩
    match Gradient.resolve? document.gradients id target with
    | some resolved => return gradient resolved
    | Option.none =>
      match fallback with
      | some token => ofColor (if token == "currentColor" then style.text .color else token)
      | Option.none =>
        Ledger.notify (.unknownGradient id)
        return none

/-- How far the paint itself covers what lies under it. -/
def alpha : ResolvedPaint α → α
  | color resolved => resolved.alpha
  | _ => 1

def isNone : ResolvedPaint α → Bool
  | none => true
  | _ => false

/-- The paint of an area. A gradient needs one that is not empty. -/
def forFill (paint : ResolvedPaint α) (box : Box α) : ResolvedPaint α :=
  match paint with
  | gradient resolved => if box.width ≤ 0 || box.height ≤ 0 then none else gradient resolved
  | paint => paint

/-- The paint of a line. In place of a gradient stands its first stop, and lines without width are not
    painted. -/
def forStroke (paint : ResolvedPaint α) (lineStyle : LineStyle α) : ResolvedPaint α :=
  if lineStyle.width ≤ 0 then none
  else
    match paint with
    | gradient resolved =>
      match resolved.stops with
      | first :: _ => color ⟨first.color, first.opacity⟩
      | [] => none
    | paint => paint

end ResolvedPaint

/-- Paints a gradient where the clipping path allows. -/
def shadingOperators (gradient : ResolvedGradient α) : StateM (Ledger α) (List (Operator α)) := do
  match Shading.ofGradient? gradient with
  | none => return []
  | some shading =>
    let number ← Ledger.register (.shading shading)
    return [.transform gradient.placement, .shading number]

/-- Paints an image into the unit square that `placement` maps to the page. -/
def imageOperators (placement : Matrix α) (bytes : List UInt8) :
    StateM (Ledger α) (List (Operator α)) := do
  let number ← Ledger.register (.image bytes)
  return [.save, .transform placement, .image number, .restore]

/-- Paints the area of a path with a gradient, then its line; or area and line with colors at once. -/
def paintOperators (outline : List (Operator α)) (evenOdd : Bool) (fill stroke : ResolvedPaint α)
    (lineStyle : LineStyle α) : StateM (Ledger α) (List (Operator α)) := do
  let shaded ←
    match fill with
    | .gradient gradient =>
      let shading ← shadingOperators gradient
      pure ([.save] ++ outline ++ [.paint (if evenOdd then .clipEvenOdd else .clip)] ++ shading ++
        [.restore])
    | _ => pure []
  let pen : List (Operator α) := match stroke with
    | .color resolved => [.lineStyle lineStyle, .strokeColor resolved.color]
    | _ => []
  let painted : List (Operator α) := match fill, stroke with
    | .color area, .color _ =>
      [.fillColor area.color] ++ outline ++
        [.paint (if evenOdd then .fillStrokeEvenOdd else .fillStroke)]
    | .color area, _ =>
      [.fillColor area.color] ++ outline ++ [.paint (if evenOdd then .fillEvenOdd else .fill)]
    | _, .color _ => outline ++ [.paint .stroke]
    | _, _ => []
  return shaded ++ pen ++ painted

/-- Paints a path in a graphics state of its own, which has the map and the clip region of its element. -/
def paintPath (setting : Setting α) (document : Document α) (path : Path α) (style : Style α)
    (transform : Matrix α) : StateM (Ledger α) (List (Operator α)) := do
  let frame := document.frame
  let box := path.boundingBox.toBox
  let fillPaint ← ResolvedPaint.read setting document (style.text .fill) style box
  let strokePaint ← ResolvedPaint.read setting document (style.text .stroke) style box
  let lineStyle := style.lineStyle frame.viewport (style.lengthContext setting.options.dpi)
  let fill := fillPaint.forFill box
  let stroke := strokePaint.forStroke lineStyle
  if fill.isNone && stroke.isNone then
    return []
  let opacity := frame.opacity * style.number .opacity
  let clip ← clipRegion setting document style (if path.boundingBox.isEmpty then none else some box)
  let state ← graphicsState frame style (opacity * style.number .fillOpacity * fill.alpha)
    (opacity * style.number .strokeOpacity * stroke.alpha)
  let outline := path.operators setting.pageHeight .identity
  let painted ← paintOperators outline (style.text .fillRule == "evenodd") fill stroke lineStyle
  return [.save] ++ transform.operators setting.pageHeight ++ clip ++ state ++ painted ++ [.restore]

namespace Document

def shapeContext (setting : Setting α) (document : Document α) (style : Style α) : ShapeContext α where
  viewport := document.frame.viewport
  lengths := style.lengthContext setting.options.dpi
  minLength := setting.options.minLength

/-- Draws a shape. One that is hidden is not painted. -/
def drawShape (setting : Setting α) (document : Document α) (kind : ShapeKind) (attributes : Attributes) :
    StateM (Ledger α) (Document α) := do
  let style := document.frame.style.resolve attributes setting.options.dpi
  match (document.shapeContext setting style).path? attributes kind with
  | none => return document
  | some path =>
    if style.isInvisible || document.frame.hidden then
      return document
    let transform := Transform.read ((attributes.get? "transform").getD "")
    return document.write (← paintPath setting document path style transform)

/-- Draws an image into a box, as pixels that fill the unit square. -/
def drawPixels (setting : Setting α) (document : Document α) (style : Style α) (transform : Matrix α)
    (box : Box α) (bytes : List UInt8) : StateM (Ledger α) (Document α) := do
  let opacity := document.frame.opacity * style.number .opacity
  let clip ← clipRegion setting document style (some box)
  let state ← graphicsState document.frame style opacity opacity
  let placement : Matrix α :=
    ⟨box.width, 0, 0, box.height, box.x, setting.pageHeight - box.y - box.height⟩
  let painted ← imageOperators placement bytes
  return document.write ([.save] ++ transform.operators setting.pageHeight ++ clip ++ state ++ painted ++
    [.restore])

/-- Opens a group: a graphics state with the map, clip region, opacity and blend mode of its children. -/
def openGroup (setting : Setting α) (document : Document α) (attributes : Attributes) :
    StateM (Ledger α) (Document α × Closing α) := do
  let frame := document.frame
  let style := frame.style.resolve attributes setting.options.dpi
  let transform := Transform.read ((attributes.get? "transform").getD "")
  let opacity := frame.opacity * style.number .opacity
  let clip ← clipRegion setting document style none
  let state ← graphicsState frame style opacity opacity
  let opened := document.write
    ([.save] ++ transform.operators setting.pageHeight ++ clip ++ state)
  return (opened.enter
    { frame with
      style
      ctm := frame.ctm.multiply transform
      opacity
      blendMode := frame.blend style.blendMode }, .scope frame)

end Document

end SvgPage
