import SvgPage.Gradient.Resolve

namespace SvgPage

/-- A color for each number between zero and one: between two colors, or between the colors of several such
    functions, each on the part of the numbers that two neighbouring bounds leave it. -/
inductive ShadingFunction (α : Type) where
  | interpolation (first last : DeviceColor α)
  | stitching (parts : List (DeviceColor α × DeviceColor α)) (bounds : List α)
deriving DecidableEq, Repr

/-- A gradient as a resource: the colors along its geometry, all in one color space. -/
structure Shading (α : Type) where
  geometry : GradientGeometry α
  space : ColorSpace
  function : ShadingFunction α
deriving DecidableEq, Repr

namespace Shading

variable {α : Type} [Scalar α]

/-- The stops with the first and the last one repeated at the ends of the gradient unless they are there. -/
def padStops (first last : GradientStop α) (stops : List (GradientStop α)) : List (GradientStop α) :=
  (if 0 < first.offset then [{ first with offset := 0 }] else []) ++ stops ++
    if last.offset < 1 then [{ last with offset := 1 }] else []

/-- The stops in the color space of the first one if all have it, and else in red, green and blue. -/
def unifyColors (space : ColorSpace) (stops : List (GradientStop α)) : List (GradientStop α) :=
  if stops.all fun stop => stop.color.space == space then stops
  else stops.map fun stop => { stop with color := stop.color.toRgb }

/-- The stops that cover the whole gradient in one color space. -/
def normalizeStops (stops : List (GradientStop α)) : List (GradientStop α) :=
  match stops.head?, stops.getLast? with
  | some first, some last => unifyColors first.color.space (padStops first last stops)
  | _, _ => []

/-- The colors along stops, linear between neighbours. -/
def functionOf (stops : List (GradientStop α)) : ShadingFunction α :=
  match stops with
  | [first, last] => .interpolation first.color last.color
  | _ =>
    .stitching (stops.zip (stops.drop 1) |>.map fun (first, last) => (first.color, last.color))
      (((stops.drop 1).dropLast).map GradientStop.offset)

/-- The shading of a gradient; there is none without stops. -/
def ofGradient? (gradient : ResolvedGradient α) : Option (Shading α) :=
  match normalizeStops gradient.stops with
  | [] => none
  | first :: rest => some ⟨gradient.geometry, first.color.space, functionOf (first :: rest)⟩

end Shading

end SvgPage
