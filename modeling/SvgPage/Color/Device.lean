import SvgPage.Numeric.Scalar

namespace SvgPage

inductive ColorSpace where
  | gray
  | rgb
  | cmyk
deriving DecidableEq, Repr

/-- A color in one of the color spaces of a device. -/
inductive DeviceColor (α : Type) where
  | gray (level : α)
  | rgb (red green blue : α)
  | cmyk (cyan magenta yellow black : α)
deriving DecidableEq, Repr

namespace DeviceColor

variable {α : Type}

def space : DeviceColor α → ColorSpace
  | gray _ => .gray
  | rgb .. => .rgb
  | cmyk .. => .cmyk

/-- The components in the order of their color space. -/
def components : DeviceColor α → List α
  | gray level => [level]
  | rgb red green blue => [red, green, blue]
  | cmyk cyan magenta yellow black => [cyan, magenta, yellow, black]

/-- The color in red, green and blue. -/
def toRgb [Scalar α] : DeviceColor α → DeviceColor α
  | rgb red green blue => rgb red green blue
  | gray level => rgb level level level
  | cmyk cyan magenta yellow black =>
    rgb ((1 - cyan) * (1 - black)) ((1 - magenta) * (1 - black)) ((1 - yellow) * (1 - black))

end DeviceColor

end SvgPage
