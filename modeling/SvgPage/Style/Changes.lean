import SvgPage.Style.Basic

namespace SvgPage.Style

variable {α : Type} [Scalar α]

/-- The properties with another value than in a document that says nothing, at 96 user units to the
    inch. -/
def changes (style : Style α) : List (String × String) :=
  let texts := TextProperty.all.filterMap fun property =>
    if style.text property == property.initial then none else some (property.name, style.text property)
  let numbers := NumberProperty.all.filterMap fun property =>
    let value := style.number property
    if value == property.initial then none else some (property.name, Scalar.toText value)
  let size := if style.fontSize == 16 then [] else [("font-size", Scalar.toText style.fontSize)]
  texts ++ numbers ++ size

end SvgPage.Style
