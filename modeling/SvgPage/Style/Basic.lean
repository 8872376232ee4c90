import SvgPage.Css.BlendMode
import SvgPage.Css.Declarations
import SvgPage.Css.Font
import SvgPage.Css.Reference
import SvgPage.Style.Property

namespace SvgPage

/-- The values of all style properties for one element. `extra` holds the declarations of its inline
    style for other properties, and `fontSize` is in user units. -/
structure Style (α : Type) where
  text : TextProperty → String
  number : NumberProperty → α
  fontSize : α
  extra : Table String

/-- Where an element says something about its style: its attributes and the declarations of its inline
    style. -/
structure StyleSource where
  attributes : Attributes
  declarations : Table String

namespace StyleSource

def ofAttributes (attributes : Attributes) : StyleSource :=
  ⟨attributes, Css.parseDeclarations ((attributes.get? "style").getD "")⟩

/-- The value the element declares for a property: the one of its attribute, unless that is blank, or else
    the one of its inline style. The word `inherit` declares nothing. -/
def declared? (source : StyleSource) (name : String) : Option String :=
  match ((source.attributes.get? name).map Text.trim).filter fun value =>
      !value.isEmpty && value != "inherit" with
  | some value => some value
  | none => (source.declarations.get? name).filter (· != "inherit")

/-- Whether the element asks for the value of its parent. -/
def asksParent (source : StyleSource) (name : String) : Bool :=
  (source.attributes.get? name).map Text.trim == some "inherit" ||
    source.declarations.get? name == some "inherit"

/-- The parts of the `font` value that the element declares. -/
def font? (source : StyleSource) : Option Css.FontShorthand :=
  source.declared? "font" >>= Css.FontShorthand.parse?

/-- The value that a `font` value gives to a property of its own. Style, variant and weight are normal if
    they are left out. -/
def fontText? (font : Css.FontShorthand) : TextProperty → Option String
  | .fontStyle => some (font.style.getD "normal")
  | .fontVariant => some (font.variant.getD "normal")
  | .fontWeight => some (font.weight.getD "normal")
  | .fontFamily => font.family
  | _ => none

/-- The text the element gives for a property, by name or in its `font` value. -/
def text? (source : StyleSource) (font : Option Css.FontShorthand) (property : TextProperty) :
    Option String :=
  (source.declared? property.name).or (font.bind (fontText? · property))

def fontSize? (source : StyleSource) (font : Option Css.FontShorthand) : Option String :=
  (source.declared? "font-size").or (font.map Css.FontShorthand.size)

/-- The declarations for properties that are not known. -/
def extra (source : StyleSource) : Table String :=
  ⟨source.declarations.entries.filter fun entry => (Property.ofName? entry.1).isNone⟩

end StyleSource

namespace Style

variable {α : Type} [Scalar α]

/-- The style of a document that says nothing. -/
def initial (fontSize : α) : Style α := ⟨TextProperty.initial, NumberProperty.initial, fontSize, {}⟩

/-- The style a document with `dpi` user units to the inch starts from. -/
def ofResolution (dpi : α) : Style α := initial (16 * dpi / 96)

/-- The style of an element, from the style of its parent and what the element says. Properties that it
    does not declare come from the parent, if they are inherited or the element asks for it, and else
    have their initial value. -/
def resolve (parent : Style α) (attributes : Attributes) (dpi : α) : Style α :=
  let source := StyleSource.ofAttributes attributes
  let font := source.font?
  { text := fun property =>
      (source.text? font property).getD <|
        if property.isInherited || source.asksParent property.name then parent.text property
        else property.initial
    number := fun property =>
      ((source.declared? property.name).bind readNumber?).getD <|
        if property.isInherited || source.asksParent property.name then parent.number property
        else property.initial
    fontSize :=
      match source.fontSize? font with
      | none => parent.fontSize
      | some size => Css.FontSize.read size ⟨dpi, parent.fontSize⟩
    extra := source.extra }

/-- Whether the element itself paints nothing. -/
def isInvisible (style : Style α) : Bool :=
  style.text .visibility == "hidden" || style.text .visibility == "collapse" ||
    style.text .display == "none"

/-- The style with another value for a property. -/
def setText (style : Style α) (property : TextProperty) (value : String) : Style α :=
  { style with text := fun other => if other == property then value else style.text other }

def lengthContext (style : Style α) (dpi : α) : Css.LengthContext α := ⟨dpi, style.fontSize⟩

def blendMode (style : Style α) : BlendMode := .read (style.text .mixBlendMode)

end Style

/-- What a `fill` or `stroke` value asks for. -/
inductive Paint where
  | none
  | color (value : String)
  | gradient (id : String) (fallback : Option String)
deriving DecidableEq, Repr

/-- Reads a paint value; `currentColor` stands for the color of the element. -/
def Paint.read {α : Type} (value : String) (style : Style α) : Paint :=
  let value := Text.trim value
  if value.isEmpty || value == "none" then .none
  else
    match Css.UrlReference.read? value with
    | some reference => .gradient reference.id reference.fallback
    | Option.none =>
      if "url(".toList.isPrefixOf value.toList then .none
      else .color (if value == "currentColor" then style.text .color else value)

end SvgPage
