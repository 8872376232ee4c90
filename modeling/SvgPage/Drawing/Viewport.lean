import SvgPage.Drawing.Failure
import SvgPage.Drawing.Paint
import SvgPage.Viewport

namespace SvgPage

variable {α : Type} [Scalar α]

def Box.size (box : Box α) : Size α := ⟨box.width, box.height⟩

def viewBox? (attributes : Attributes) : Option (Box α) := attributes.get? "viewBox" >>= readViewBox?

def aspectRatio (attributes : Attributes) : AspectRatio :=
  .read ((attributes.get? "preserveAspectRatio").getD "")

/-- The size that an `svg` declares by its width and height or else by its `viewBox`. What is not declared
    is zero. -/
def intrinsicSize (attributes : Attributes) (context : Css.LengthContext α) : Size α :=
  let box : Option (Box α) := viewBox? attributes
  let dimension (name : String) (ofBox : Option α) : α :=
    ((attributes.get? name >>= fun value => Css.Length.read? value (ofBox.getD 0) context).or
      ofBox).getD 0
  ⟨dimension "width" (box.map Box.width), dimension "height" (box.map Box.height)⟩

/-- The size of a drawing. Where neither dimension is asked for, both are the document's own; where one is
    asked for, the other follows from the document's proportions. -/
def drawingSize (requested intrinsic : Size α) : Except (Failure α) (Size α) :=
  let ⟨width, height⟩ : Size α :=
    if requested.width == 0 && requested.height == 0 then intrinsic
    else if requested.width == 0 then
      ⟨if 0 < intrinsic.height then requested.height * intrinsic.width / intrinsic.height else 0,
        requested.height⟩
    else if requested.height == 0 then
      ⟨requested.width,
        if 0 < intrinsic.width then requested.width * intrinsic.height / intrinsic.width else 0⟩
    else requested
  if 0 < width && 0 < height then .ok ⟨width, height⟩ else .error (.noArea width height)

/-- The size of the drawing that a root with the given attributes makes, in a document with a frame. -/
def rootSize (setting : Setting α) (frame : Frame α) (attributes : Attributes) :
    Except (Failure α) (Size α) :=
  let dpi := setting.options.dpi
  let intrinsic := intrinsicSize attributes ((frame.style.resolve attributes dpi).lengthContext dpi)
  let pointsPerUnit := 72 / dpi
  drawingSize setting.placement.size
    ⟨intrinsic.width * pointsPerUnit, intrinsic.height * pointsPerUnit⟩

/-- The box of a drawing, which lies at the upper edge of the page until it is placed. -/
def drawingBox (setting : Setting α) (size : Size α) : Box α :=
  ⟨0, setting.pageHeight - size.height, size.width, size.height⟩

/-- How the content of a root is placed in its drawing: the map from its user space, and the size that
    percentages refer to there. -/
structure RootFit (α : Type) where
  matrix : Matrix α
  viewport : Size α

/-- Fits the `viewBox` of a root, or else its own size, into the drawing. Without either, user units have
    their usual size on the page, or that of the page's units in an embedded document. -/
def RootFit.ofAttributes (setting : Setting α) (attributes : Attributes) (intrinsic size : Size α) :
    RootFit α :=
  let box : Option (Box α) := (viewBox? attributes).or <|
    if 0 < intrinsic.width && 0 < intrinsic.height then
      some ⟨0, 0, intrinsic.width, intrinsic.height⟩
    else
      none
  match box with
  | some box => ⟨(ViewportFit.ofBox size box (aspectRatio attributes)).matrix box, box.size⟩
  | none =>
    let scale := if setting.depth == 0 then 72 / setting.options.dpi else 1
    ⟨.scaling scale scale, ⟨size.width / scale, size.height / scale⟩⟩

namespace Document

/-- Opens the root of a document: clips to the drawing and fits the content into it. -/
def openRoot (setting : Setting α) (document : Document α) (attributes : Attributes) :
    ExceptT (Failure α) (StateM (Ledger α)) (Document α × Closing α) := do
  let frame := document.frame
  let dpi := setting.options.dpi
  let style := frame.style.resolve attributes dpi
  let intrinsic := intrinsicSize attributes (style.lengthContext dpi)
  let size ← (rootSize setting frame attributes : Except _ _)
  let fit := RootFit.ofAttributes setting attributes intrinsic size
  Ledger.notify (.drawing (size.width, size.height) setting.depth)
  let opacity := style.number .opacity
  let state ← graphicsState frame style opacity opacity
  let opened := document.write <|
    [.save] ++ setting.placement.matrix.operators setting.pageHeight ++
      [.rect (drawingBox setting size), .paint .clip] ++ fit.matrix.operators setting.pageHeight ++ state
  return (opened.enter
    { style
      viewport := fit.viewport
      ctm := setting.placement.matrix.multiply fit.matrix
      opacity
      blendMode := style.blendMode
      hidden := false }, .scope frame)

/-- Opens an `svg` inside a document: a viewport of its own, which clips unless its overflow is visible. One
    without area paints nothing. -/
def openNestedSvg (setting : Setting α) (document : Document α) (attributes : Attributes) :
    StateM (Ledger α) (Document α × Closing α) := do
  let frame := document.frame
  let dpi := setting.options.dpi
  let specified := frame.style.resolve attributes dpi
  let length (name : String) (default : Option String) (reference : α) : α :=
    (((attributes.get? name).or default) >>= fun value =>
      Css.Length.read? value reference (specified.lengthContext dpi)).getD 0
  let x := length "x" none frame.viewport.width
  let y := length "y" none frame.viewport.height
  let width := length "width" (some "100%") frame.viewport.width
  let height := length "height" (some "100%") frame.viewport.height
  let hasArea := decide (0 < width) && decide (0 < height)
  let style := if hasArea then specified else specified.setText .display "none"
  let box : Option (Box α) := viewBox? attributes
  let transform := Transform.read ((attributes.get? "transform").getD "")
  let fit := match box, hasArea with
    | some box, true =>
      (ViewportFit.ofBox ⟨width, height⟩ box (aspectRatio attributes)).matrix box
    | _, _ => .identity
  let inner := (Matrix.shift x y).multiply fit
  let opacity := frame.opacity * style.number .opacity
  let viewportClip :=
    if style.text .overflow != "visible" && hasArea then
      Box.clipOperators ⟨x, y, width, height⟩ setting.pageHeight
    else
      []
  let clip ← clipRegion setting document style none
  let state ← graphicsState frame style opacity opacity
  let opened := document.write <|
    [.save] ++ transform.operators setting.pageHeight ++ viewportClip ++ clip ++ state ++
      inner.operators setting.pageHeight
  let depth := document.svgDepth + 1
  Ledger.notify (.nested depth)
  return ({ opened with svgDepth := depth }.enter
    { frame with
      style
      viewport := (box.map Box.size).getD ⟨width, height⟩
      ctm := (frame.ctm.multiply transform).multiply inner
      opacity
      blendMode := frame.blend style.blendMode }, .nestedSvg frame)

end Document

end SvgPage
