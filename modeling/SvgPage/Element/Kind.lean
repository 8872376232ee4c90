import SvgPage.Gradient.Basic

namespace SvgPage

inductive ShapeKind where
  | path
  | rect
  | circle
  | ellipse
  | line
  | polyline
  | polygon
deriving DecidableEq, Repr

/-- The kinds of elements that are told apart. -/
inductive ElementKind where
  | svg
  | group
  | defs
  | symbol
  | clipPath
  | gradient (kind : GradientKind)
  | stop
  | use
  | shape (kind : ShapeKind)
  | image
  | text
  | span
  | unknown (name : String)
deriving DecidableEq, Repr

/-- The name of an element without its namespace. -/
def localName (name : String) : String :=
  match name.toList.dropWhile (· != ':') with
  | [] => name
  | _ :: rest => String.ofList rest

namespace ElementKind

def ofLocalName : String → ElementKind
  | "path" => shape .path
  | "rect" => shape .rect
  | "circle" => shape .circle
  | "ellipse" => shape .ellipse
  | "line" => shape .line
  | "polyline" => shape .polyline
  | "polygon" => shape .polygon
  | "svg" => svg
  | "defs" => defs
  | "symbol" => symbol
  | "clipPath" => clipPath
  | "stop" => stop
  | "use" => use
  | "image" => image
  | "g" | "a" | "switch" => group
  | "linearGradient" => gradient .linear
  | "radialGradient" => gradient .radial
  | "text" => text
  | "tspan" => span
  | name => unknown name

def ofName (name : String) : ElementKind := ofLocalName (localName name)

end ElementKind

end SvgPage
