import SvgPage.Text.Blank
import SvgPage.Text.Case

namespace SvgPage

/-- How a drawing is combined with what lies under it. -/
inductive BlendMode where
  | normal | multiply | screen | overlay | darken | lighten | colorDodge | colorBurn | hardLight
  | softLight | difference | exclusion | hue | saturation | color | luminosity
deriving DecidableEq, Repr

namespace BlendMode

/-- The name in a graphics state. -/
def name : BlendMode → String
  | normal => "Normal"
  | multiply => "Multiply"
  | screen => "Screen"
  | overlay => "Overlay"
  | darken => "Darken"
  | lighten => "Lighten"
  | colorDodge => "ColorDodge"
  | colorBurn => "ColorBurn"
  | hardLight => "HardLight"
  | softLight => "SoftLight"
  | difference => "Difference"
  | exclusion => "Exclusion"
  | hue => "Hue"
  | saturation => "Saturation"
  | color => "Color"
  | luminosity => "Luminosity"

def all : List BlendMode :=
  [normal, multiply, screen, overlay, darken, lighten, colorDodge, colorBurn, hardLight, softLight,
    difference, exclusion, hue, saturation, color, luminosity]

/-- The mode a style value names. Case and hyphens do not matter, and an unknown name stands for the
    normal mode. -/
def read (value : String) : BlendMode :=
  let key := (Text.lower (Text.trim value)).toList.filter (· != '-')
  (all.find? fun mode => (Text.lowerAscii mode.name).toList == key).getD normal

end BlendMode

end SvgPage
