import SvgPage.Element.Kind

namespace SvgPage

/-- Whether an element is placed by its attributes `x` and `y`. -/
def ElementKind.isPositioned : ElementKind → Bool
  | svg | image | text | span | use | shape .rect => true
  | _ => false

namespace Use

/-- The attributes of a `use` that do not simply replace those of the element it stands for. -/
def ownAttributes : List String :=
  ["id", "href", "xlink:href", "x", "y", "style", "transform", "width", "height"]

/-- The attributes that the element a `use` stands for never has. -/
def droppedAttributes : List String := ["id", "href", "xlink:href", "__proto__"]

variable (α : Type) [Scalar α]

/-- The number in an attribute, or zero. -/
def readOffset (attributes : Attributes) (name : String) : α :=
  ((attributes.get? name).bind readNumber?).getD 0

/-- The parts that are there and not empty, with a separator between them. -/
def joinGiven (separator : String) (parts : List (Option String)) : String :=
  separator.intercalate (parts.filterMap fun part => part.filter fun text => !text.isEmpty)

/-- Moves an element that has a position by the `use`'s offset along one axis. -/
def addOffset (name : String) (element use merged : Attributes) : Attributes :=
  if use.contains name then
    merged.set name (Scalar.toText (readOffset α element name + readOffset α use name))
  else
    merged

/-- The transform function that moves an element without a position. -/
def shift? (use : Attributes) : Option String :=
  let x := readOffset α use "x"
  let y := readOffset α use "y"
  if x != 0 || y != 0 then
    some ("translate(" ++ Scalar.toText x ++ ", " ++ Scalar.toText y ++ ")")
  else
    none

def setGiven (name value : String) (merged : Attributes) : Attributes :=
  if value.isEmpty then merged else merged.set name value

/-- The element a `use` stands for where it is drawn: the referenced element with the attributes of the
    `use`. Positions add up, the `use`'s transform acts after the element's, and its declarations
    follow the element's. A symbol becomes an `svg`, which takes the size of the `use`. -/
def merge (elementName : String) (element use : Attributes) : String × Attributes :=
  let name := if localName elementName == "symbol" then "svg" else elementName
  let kind := ElementKind.ofName name
  let replaced := element.setAll (use.entries.filter fun entry => !ownAttributes.contains entry.1)
  let merged := droppedAttributes.foldl Table.erase replaced
  let placed :=
    if kind.isPositioned then
      addOffset α "y" element use (addOffset α "x" element use merged)
    else
      merged
  let shift := if kind.isPositioned then none else shift? α use
  let transform := joinGiven " " [use.get? "transform", shift, element.get? "transform"]
  let style := joinGiven ";" [element.get? "style", use.get? "style"]
  let styled := setGiven "style" style (setGiven "transform" transform placed)
  let sized :=
    if kind == .svg then
      ["width", "height"].foldl (fun merged dimension =>
        match use.get? dimension with
        | some value => merged.set dimension value
        | none => merged) styled
    else
      styled
  (name, sized)

end Use

end SvgPage
