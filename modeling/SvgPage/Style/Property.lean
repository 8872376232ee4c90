import SvgPage.Numeric.Scalar

namespace SvgPage

/-- The style properties whose value is kept as text. -/
inductive TextProperty where
  | alignmentBaseline | baselineShift | clip | clipPath | clipRule | color | colorInterpolation
  | colorInterpolationFilters | colorProfile | colorRendering | cursor | direction | display
  | dominantBaseline | enableBackground | fill | fillRule | filter | floodColor | font
  | fontFamily | fontSizeAdjust | fontStretch | fontStyle | fontVariant | fontWeight
  | glyphOrientationHorizontal | glyphOrientationVertical | imageRendering | kerning
  | letterSpacing | lightingColor | marker | markerEnd | markerMid | markerStart | mask
  | mixBlendMode | overflow | pointerEvents | shapeRendering | stopColor | stroke
  | strokeDasharray | strokeLinecap | strokeLinejoin | strokeWidth | textAnchor | textDecoration
  | textRendering | unicodeBidi | visibility | wordSpacing | writingMode
deriving DecidableEq, Repr

namespace TextProperty

def all : List TextProperty := [
    alignmentBaseline, baselineShift, clip, clipPath, clipRule, color, colorInterpolation,
    colorInterpolationFilters, colorProfile, colorRendering, cursor, direction, display,
    dominantBaseline, enableBackground, fill, fillRule, filter, floodColor, font, fontFamily,
    fontSizeAdjust, fontStretch, fontStyle, fontVariant, fontWeight, glyphOrientationHorizontal,
    glyphOrientationVertical, imageRendering, kerning, letterSpacing, lightingColor, marker,
    markerEnd, markerMid, markerStart, mask, mixBlendMode, overflow, pointerEvents,
    shapeRendering, stopColor, stroke, strokeDasharray, strokeLinecap, strokeLinejoin,
    strokeWidth, textAnchor, textDecoration, textRendering, unicodeBidi, visibility, wordSpacing,
    writingMode]

def name : TextProperty → String
  | alignmentBaseline => "alignment-baseline"
  | baselineShift => "baseline-shift"
  | clip => "clip"
  | clipPath => "clip-path"
  | clipRule => "clip-rule"
  | color => "color"
  | colorInterpolation => "color-interpolation"
  | colorInterpolationFilters => "color-interpolation-filters"
  | colorProfile => "color-profile"
  | colorRendering => "color-rendering"
  | cursor => "cursor"
  | direction => "direction"
  | display => "display"
  | dominantBaseline => "dominant-baseline"
  | enableBackground => "enable-background"
  | fill => "fill"
  | fillRule => "fill-rule"
  | filter => "filter"
  | floodColor => "flood-color"
  | font => "font"
  | fontFamily => "font-family"
  | fontSizeAdjust => "font-size-adjust"
  | fontStretch => "font-stretch"
  | fontStyle => "font-style"
  | fontVariant => "font-variant"
  | fontWeight => "font-weight"
  | glyphOrientationHorizontal => "glyph-orientation-horizontal"
  | glyphOrientationVertical => "glyph-orientation-vertical"
  | imageRendering => "image-rendering"
  | kerning => "kerning"
  | letterSpacing => "letter-spacing"
  | lightingColor => "lighting-color"
  | marker => "marker"
  | markerEnd => "marker-end"
  | markerMid => "marker-mid"
  | markerStart => "marker-start"
  | mask => "mask"
  | mixBlendMode => "mix-blend-mode"
  | overflow => "overflow"
  | pointerEvents => "pointer-events"
  | shapeRendering => "shape-rendering"
  | stopColor => "stop-color"
  | stroke => "stroke"
  | strokeDasharray => "stroke-dasharray"
  | strokeLinecap => "stroke-linecap"
  | strokeLinejoin => "stroke-linejoin"
  | strokeWidth => "stroke-width"
  | textAnchor => "text-anchor"
  | textDecoration => "text-decoration"
  | textRendering => "text-rendering"
  | unicodeBidi => "unicode-bidi"
  | visibility => "visibility"
  | wordSpacing => "word-spacing"
  | writingMode => "writing-mode"

/-- The value in a document that says nothing. -/
def initial : TextProperty → String
  | alignmentBaseline => "auto"
  | baselineShift => "baseline"
  | clip => "auto"
  | clipPath => "none"
  | clipRule => "nonzero"
  | color => "black"
  | colorInterpolation => "sRGB"
  | colorInterpolationFilters => "linearRGB"
  | colorProfile => "auto"
  | colorRendering => "auto"
  | cursor => "auto"
  | direction => "ltr"
  | display => "inline"
  | dominantBaseline => "auto"
  | enableBackground => "accumulate"
  | fill => "black"
  | fillRule => "nonzero"
  | filter => "none"
  | floodColor => "black"
  | font => ""
  | fontFamily => "helvetica"
  | fontSizeAdjust => "none"
  | fontStretch => "normal"
  | fontStyle => "normal"
  | fontVariant => "normal"
  | fontWeight => "normal"
  | glyphOrientationHorizontal => "0deg"
  | glyphOrientationVertical => "auto"
  | imageRendering => "auto"
  | kerning => "auto"
  | letterSpacing => "normal"
  | lightingColor => "white"
  | marker => ""
  | markerEnd => "none"
  | markerMid => "none"
  | markerStart => "none"
  | mask => "none"
  | mixBlendMode => "normal"
  | overflow => "auto"
  | pointerEvents => "visiblePainted"
  | shapeRendering => "auto"
  | stopColor => "black"
  | stroke => "none"
  | strokeDasharray => "none"
  | strokeLinecap => "butt"
  | strokeLinejoin => "miter"
  | strokeWidth => "1"
  | textAnchor => "start"
  | textDecoration => "none"
  | textRendering => "auto"
  | unicodeBidi => "normal"
  | visibility => "visible"
  | wordSpacing => "normal"
  | writingMode => "lr-tb"

/-- Whether an element takes the value of its parent if it says nothing. -/
def isInherited : TextProperty → Bool
  | clipRule => true
  | color => true
  | colorInterpolation => true
  | colorInterpolationFilters => true
  | colorProfile => true
  | colorRendering => true
  | cursor => true
  | direction => true
  | fill => true
  | fillRule => true
  | font => true
  | fontFamily => true
  | fontSizeAdjust => true
  | fontStretch => true
  | fontStyle => true
  | fontVariant => true
  | fontWeight => true
  | glyphOrientationHorizontal => true
  | glyphOrientationVertical => true
  | imageRendering => true
  | kerning => true
  | letterSpacing => true
  | marker => true
  | markerEnd => true
  | markerMid => true
  | markerStart => true
  | pointerEvents => true
  | shapeRendering => true
  | stroke => true
  | strokeDasharray => true
  | strokeLinecap => true
  | strokeLinejoin => true
  | strokeWidth => true
  | textAnchor => true
  | textRendering => true
  | visibility => true
  | wordSpacing => true
  | writingMode => true
  | _ => false

end TextProperty

/-- The style properties whose value is a number. -/
inductive NumberProperty where
  | fillOpacity | floodOpacity | opacity | stopOpacity | strokeDashoffset | strokeMiterlimit
  | strokeOpacity
deriving DecidableEq, Repr

namespace NumberProperty

def all : List NumberProperty := [
    fillOpacity, floodOpacity, opacity, stopOpacity, strokeDashoffset, strokeMiterlimit,
    strokeOpacity]

def name : NumberProperty → String
  | fillOpacity => "fill-opacity"
  | floodOpacity => "flood-opacity"
  | opacity => "opacity"
  | stopOpacity => "stop-opacity"
  | strokeDashoffset => "stroke-dashoffset"
  | strokeMiterlimit => "stroke-miterlimit"
  | strokeOpacity => "stroke-opacity"

/-- The value in a document that says nothing. -/
def initial {α : Type} [Scalar α] : NumberProperty → α
  | fillOpacity => 1
  | floodOpacity => 1
  | opacity => 1
  | stopOpacity => 1
  | strokeDashoffset => 0
  | strokeMiterlimit => 4
  | strokeOpacity => 1

/-- Whether an element takes the value of its parent if it says nothing. -/
def isInherited : NumberProperty → Bool
  | fillOpacity => true
  | strokeDashoffset => true
  | strokeMiterlimit => true
  | strokeOpacity => true
  | _ => false

end NumberProperty

/-- A style property of which the value counts: a text, a number, or the size of the font. -/
inductive Property where
  | text (property : TextProperty)
  | number (property : NumberProperty)
  | fontSize
deriving DecidableEq, Repr

namespace Property

def all : List Property :=
  TextProperty.all.map text ++ NumberProperty.all.map number ++ [fontSize]

def name : Property → String
  | text property => property.name
  | number property => property.name
  | fontSize => "font-size"

def isInherited : Property → Bool
  | text property => property.isInherited
  | number property => property.isInherited
  | fontSize => true

def ofName? (name : String) : Option Property := all.find? fun property => property.name == name

end Property

end SvgPage
