import SvgPage.Drawing.Paint

namespace SvgPage.Document

variable {α : Type} [Scalar α]

/-- Begins to collect the shapes of a clip path. -/
def openClipPath (document : Document α) (attributes : Attributes) : Document α :=
  let (id, generated) := match attributes.get? "id" with
    | some id => (id, document.generated)
    | none => freshId document.generated "clipPath"
  let matrix := Transform.read ((attributes.get? "transform").getD "")
  { document with generated, clipPaths := document.clipPaths.set id [], clip := some ⟨id, matrix⟩ }

/-- Keeps an element of a clip path: its map holds for its content, and a shape is added to the others. -/
def openClipElement (setting : Setting α) (document : Document α) (clip : ClipCapture α)
    (kind : ElementKind) (attributes : Attributes) : Document α × Closing α :=
  let matrix := clip.matrix.multiply (Transform.read ((attributes.get? "transform").getD ""))
  let inner := { document with clip := some { clip with matrix } }
  let kept := match kind with
    | .shape shape =>
      let style := document.frame.style.resolve attributes setting.options.dpi
      match (document.shapeContext setting style).path? attributes shape with
      | some path =>
        let added : ClipShape α := ⟨path, matrix, style.text .clipRule == "evenodd"⟩
        { inner with clipPaths := inner.clipPaths.modify clip.id (· ++ [added]) }
      | none => inner
    | _ => inner
  (kept, .clipElement clip.matrix)

/-- Begins a gradient. -/
def openGradientElement (document : Document α) (kind : GradientKind) (attributes : Attributes) :
    Document α :=
  let stem := match kind with
    | .linear => "linearGradient"
    | .radial => "radialGradient"
  let (id, generated) := match attributes.get? "id" with
    | some id => (id, document.generated)
    | none => freshId document.generated stem
  { document with
    generated
    gradients := document.gradients.set id (.ofAttributes id kind attributes)
    openGradient := some id }

/-- Adds a stop to the gradient that is open. A stop without a color is black. -/
def addStop (setting : Setting α) (document : Document α) (attributes : Attributes) : Document α :=
  match document.openGradient with
  | none => document
  | some id =>
    let style := document.frame.style.resolve attributes setting.options.dpi
    let resolved : Option (ResolvedColor α) :=
      match Paint.read (style.text .stopColor) style with
      | .color token => ResolvedColor.read? token
      | _ => none
    let stop : GradientStop α :=
      { offset := readStopOffset ((attributes.get? "offset").getD "")
        color := (resolved.map ResolvedColor.color).getD (.gray 0)
        opacity := style.number .stopOpacity * (resolved.map ResolvedColor.alpha).getD 1 }
    { document with
      gradients := document.gradients.modify id fun gradient =>
        { gradient with stops := gradient.stops ++ [stop] } }

end SvgPage.Document
