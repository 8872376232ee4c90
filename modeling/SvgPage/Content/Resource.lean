import SvgPage.Content.Operator
import SvgPage.Content.Shading
import SvgPage.Css.BlendMode

namespace SvgPage

inductive ResourceKind where
  | graphicsState
  | shading
  | image
deriving DecidableEq, Repr

namespace ResourceKind

/-- The category under which a page lists its resources. -/
def category : ResourceKind → String
  | graphicsState => "ExtGState"
  | shading => "Shading"
  | image => "XObject"

/-- What the names of the resources start with. -/
def stem : ResourceKind → String
  | graphicsState => "GS"
  | shading => "Sh"
  | image => "Im"

end ResourceKind

/-- What operators refer to by name. -/
inductive Resource (α : Type) where
  | graphicsState (fillAlpha strokeAlpha : α) (blendMode : BlendMode)
  | shading (content : Shading α)
  | image (bytes : List UInt8)
deriving DecidableEq, Repr

/-- The name of a resource: its kind, and its number among those of the kind. -/
structure ResourceName where
  kind : ResourceKind
  number : Nat
deriving DecidableEq, Repr

def ResourceName.text (name : ResourceName) : String := name.kind.stem ++ toString name.number

def Operator.resource? {α : Type} : Operator α → Option ResourceName
  | graphicsState number => some ⟨.graphicsState, number⟩
  | shading number => some ⟨.shading, number⟩
  | image number => some ⟨.image, number⟩
  | _ => none

def ColorSpace.name : ColorSpace → String
  | gray => "/DeviceGray"
  | rgb => "/DeviceRGB"
  | cmyk => "/DeviceCMYK"

def ShadingFunction.writePart (first last : DeviceColor Float) : String :=
  "<< /FunctionType 2 /Domain [0 1] /C0 [" ++ first.write ++ "] /C1 [" ++ last.write ++ "] /N 1 >>"

def ShadingFunction.write : ShadingFunction Float → String
  | interpolation first last => writePart first last
  | stitching parts bounds =>
    "<< /FunctionType 3 /Domain [0 1] /Functions [" ++
      " ".intercalate (parts.map fun (first, last) => writePart first last) ++ "] /Bounds [" ++
      writeNumbers bounds ++ "] /Encode [" ++ " ".intercalate (parts.map fun _ => "0 1") ++ "] >>"

/-- The shading type and its coordinates: two points, or two circles of which the first is the focus. -/
def GradientGeometry.write : GradientGeometry Float → String × String
  | linear start stop => ("2", writeNumbers [start.x, start.y, stop.x, stop.y])
  | radial center focus radius =>
    ("3", writeNumbers [focus.x, focus.y, 0, center.x, center.y, radius])

def Shading.write (shading : Shading Float) : String :=
  let (kind, coordinates) := shading.geometry.write
  "<< /ShadingType " ++ kind ++ " /ColorSpace " ++ shading.space.name ++ " /Coords [" ++ coordinates ++
    "] /Domain [0 1] /Function " ++ shading.function.write ++ " /Extend [true true] >>"

namespace Resource

variable {α : Type}

def kind : Resource α → ResourceKind
  | graphicsState .. => .graphicsState
  | shading _ => .shading
  | image _ => .image

/-- The dictionary that describes the resource. -/
def write : Resource Float → String
  | graphicsState fillAlpha strokeAlpha blendMode =>
    "<< /Type /ExtGState /CA " ++ writeNumbers [strokeAlpha] ++ " /ca " ++ writeNumbers [fillAlpha] ++
      " /BM /" ++ blendMode.name ++ " >>"
  | shading content => content.write
  | image _ => "<< /Type /XObject /Subtype /Image >>"

/-- The number of a resource that is registered after others. -/
def numberAfter (registered : Array (Resource α)) (kind : ResourceKind) : Nat :=
  registered.countP (fun resource => resource.kind == kind) + 1

/-- The names of resources that are registered in turn. -/
def names (resources : List (Resource α)) : List ResourceName :=
  (List.range resources.length).zipWith
    (fun i resource =>
      ⟨resource.kind, (resources.take i).countP (fun earlier => earlier.kind == resource.kind) + 1⟩)
    resources

end Resource

end SvgPage
