import Mathlib.Data.List.DropRight
import SvgPage.Proofs.Exact
import SvgPage.Style.Basic

namespace SvgPage

variable {α β : Type} [Scalar α]

/-- Whether a `font` value gives the property a value, besides its own. -/
def TextProperty.isFontLonghand : TextProperty → Bool
  | fontFamily | fontStyle | fontVariant | fontWeight => true
  | _ => false

namespace Table

variable (attributes : Attributes) (name : String)

/-- What the inline style of an element says about a property. -/
def inline? : Option String := (Css.parseDeclarations ((attributes.get? "style").getD "")).get? name

/-- The value that an element declares for a property: its attribute without the blanks around it, if that is
    neither empty nor `inherit`, and otherwise what its inline style says, if that is not `inherit`. -/
def cascaded? : Option String :=
  let value := Text.trim ((attributes.get? name).getD "")
  if value = "" ∨ value = "inherit" then
    if attributes.inline? name = some "inherit" then none else attributes.inline? name
  else some value

/-- The number that an element declares for a property. -/
def cascadedNumber? (α : Type) [Scalar α] : Option α := (attributes.cascaded? name).bind readNumber?

/-- Whether an element says `inherit` for a property, in its attribute or in its inline style. -/
def inherits : Bool :=
  Text.trim ((attributes.get? name).getD "") = "inherit" ∨ attributes.inline? name = some "inherit"

end Table

namespace StyleSource

variable (attributes : Attributes) (name : String)

theorem declared?_ofAttributes : (ofAttributes attributes).declared? name = attributes.cascaded? name := by
  have hinline : ((ofAttributes attributes).declarations.get? name).filter (· != "inherit") =
      if attributes.inline? name = some "inherit" then none else attributes.inline? name := by
    change (attributes.inline? name).filter (· != "inherit") = _
    cases attributes.inline? name with
    | none => rfl
    | some value => by_cases hvalue : value = "inherit" <;> simp [hvalue]
  have hattributes : (ofAttributes attributes).attributes = attributes := rfl
  rw [declared?, hinline, hattributes, Table.cascaded?]
  cases attributes.get? name with
  | none => rfl
  | some value =>
    by_cases hempty : Text.trim value = ""
    · simp [Option.filter, hempty]
    · by_cases hinherit : Text.trim value = "inherit" <;> simp [Option.filter, hempty, hinherit]

theorem asksParent_ofAttributes : (ofAttributes attributes).asksParent name = attributes.inherits name := by
  have hvalue : ((attributes.get? name).map Text.trim == some "inherit") =
      decide (Text.trim ((attributes.get? name).getD "") = "inherit") := by
    cases attributes.get? name with
    | none => rfl
    | some value => rw [Bool.eq_iff_iff]; simp
  rw [asksParent, Table.inherits, Bool.decide_or]
  exact congrArg₂ _ hvalue (Bool.beq_eq_decide_eq ..)

end StyleSource

/-! ## Values along a chain of elements -/

/-- What the last element of a chain to declare a value declares. -/
def lastDeclared? (declared? : Attributes → Option β) (chain : List Attributes) : Option β :=
  (chain.filterMap declared?).getLast?

/-- What the element declares that is reached from the end of a chain past the elements that declare no value
    but ask for the one of their parent. -/
def reachedDeclared? (declared? : Attributes → Option β) (asks : Attributes → Bool) (chain : List Attributes) :
    Option β :=
  (chain.rdropWhile fun element => (declared? element).isNone && asks element).getLast?.bind declared?

section Chain

variable (declared? : Attributes → Option β) (asks : Attributes → Bool) (chain : List Attributes)
  (element : Attributes) (fallback : β)

theorem lastDeclared?_concat :
    lastDeclared? declared? (chain ++ [element]) = (declared? element).or (lastDeclared? declared? chain) := by
  rw [lastDeclared?, List.filterMap_append, List.getLast?_append]
  cases h : declared? element <;> simp [h, lastDeclared?]

/-- An element that declares nothing has the value of the one before it if it asks for it, and otherwise none. -/
theorem reachedDeclared?_concat :
    reachedDeclared? declared? asks (chain ++ [element]) =
      (declared? element).or (if asks element then reachedDeclared? declared? asks chain else none) := by
  rw [reachedDeclared?, List.rdropWhile_concat]
  cases hdeclared : declared? element with
  | some value => simp [hdeclared]
  | none =>
    by_cases hasks : asks element
    · simp [hasks, reachedDeclared?]
    · simp [hasks, hdeclared]

/-- The value that a property comes to at the end of a chain. -/
def valueAlong (isInherited : Bool) (declared? : Attributes → Option β) (asks : Attributes → Bool) (fallback : β)
    (chain : List Attributes) : β :=
  if isInherited then (lastDeclared? declared? chain).getD fallback
  else (reachedDeclared? declared? asks chain).getD fallback

theorem valueAlong_concat (isInherited : Bool) :
    valueAlong isInherited declared? asks fallback (chain ++ [element]) =
      (declared? element).getD (if isInherited || asks element then
        valueAlong isInherited declared? asks fallback chain else fallback) := by
  cases isInherited with
  | true =>
    simp only [valueAlong, if_true, lastDeclared?_concat, Bool.true_or]
    cases declared? element <;> rfl
  | false =>
    simp only [valueAlong, Bool.false_eq_true, if_false, reachedDeclared?_concat, Bool.false_or]
    cases declared? element with
    | some value => rfl
    | none => cases asks element <;> rfl

end Chain

namespace Style

/-- The style at the end of a chain of elements, the outermost first, that begins with the style of a document
    that says nothing. -/
def ofChain (dpi : α) (chain : List Attributes) : Style α :=
  chain.foldl (fun parent attributes => parent.resolve attributes dpi) (.ofResolution dpi)

theorem ofChain_concat (dpi : α) (chain : List Attributes) (element : Attributes) :
    ofChain dpi (chain ++ [element]) = (ofChain dpi chain).resolve element dpi :=
  List.foldl_concat ..

theorem resolve_text {property : TextProperty} (hlonghand : property.isFontLonghand = false) (parent : Style α)
    (attributes : Attributes) (dpi : α) :
    (parent.resolve attributes dpi).text property =
      (attributes.cascaded? property.name).getD
        (if property.isInherited || attributes.inherits property.name then parent.text property
          else property.initial) := by
  have hfont (font : Css.FontShorthand) : StyleSource.fontText? font property = none := by
    cases property with
    | fontFamily | fontStyle | fontVariant | fontWeight => cases hlonghand
    | _ => rfl
  have htext (font : Option Css.FontShorthand) :
      (StyleSource.ofAttributes attributes).text? font property = attributes.cascaded? property.name := by
    rw [StyleSource.text?, StyleSource.declared?_ofAttributes]
    cases font with
    | none => rw [Option.bind_none, Option.or_none]
    | some font => rw [Option.bind_some, hfont, Option.or_none]
  simp only [resolve, htext, StyleSource.asksParent_ofAttributes]

theorem resolve_number (property : NumberProperty) (parent : Style α) (attributes : Attributes) (dpi : α) :
    (parent.resolve attributes dpi).number property =
      (attributes.cascadedNumber? property.name α).getD
        (if property.isInherited || attributes.inherits property.name then parent.number property
          else property.initial) := by
  simp only [resolve, StyleSource.declared?_ofAttributes, StyleSource.asksParent_ofAttributes,
    Table.cascadedNumber?]

theorem ofChain_text {property : TextProperty} (hlonghand : property.isFontLonghand = false) (dpi : α)
    (chain : List Attributes) :
    (ofChain dpi chain).text property = valueAlong property.isInherited (·.cascaded? property.name)
      (·.inherits property.name) property.initial chain := by
  induction chain using List.reverseRecOn with
  | nil => exact (ite_self property.initial).symm
  | append_singleton chain element ih =>
    rw [ofChain_concat, resolve_text hlonghand, ih, valueAlong_concat]

theorem ofChain_number (property : NumberProperty) (dpi : α) (chain : List Attributes) :
    (ofChain dpi chain).number property = valueAlong property.isInherited
      (·.cascadedNumber? property.name α) (·.inherits property.name) property.initial chain := by
  induction chain using List.reverseRecOn with
  | nil => exact (ite_self property.initial).symm
  | append_singleton chain element ih => rw [ofChain_concat, resolve_number, ih, valueAlong_concat]

/-- Along a chain of elements an inherited property has the value that is declared last. Any other property has
    the one that is declared by the element reached past those that declare none but ask for the one of their
    parent. Where there is no such value the property has its initial one. -/
theorem ofChain_values (dpi : α) (chain : List Attributes) :
    (∀ property : TextProperty, property.isFontLonghand = false →
      (ofChain dpi chain).text property =
        if property.isInherited then (lastDeclared? (·.cascaded? property.name) chain).getD property.initial
        else (reachedDeclared? (·.cascaded? property.name) (·.inherits property.name) chain).getD
          property.initial) ∧
    ∀ property : NumberProperty,
      (ofChain dpi chain).number property =
        if property.isInherited then
          (lastDeclared? (·.cascadedNumber? property.name α) chain).getD property.initial
        else (reachedDeclared? (·.cascadedNumber? property.name α) (·.inherits property.name) chain).getD
          property.initial :=
  ⟨fun _ hlonghand => ofChain_text hlonghand dpi chain, fun property => ofChain_number property dpi chain⟩

/-- Elements that ask for the value of their parent, by an attribute or by their inline style, under one that is
    not displayed, and with a fill opacity that is no number. -/
def asking : List Attributes :=
  [⟨[("display", " none "), ("fill-opacity", "0.5"), ("opacity", "0.5")]⟩,
    ⟨[("display", ""), ("fill-opacity", "half"), ("style", "display: inherit; opacity: 0.25 !important")]⟩,
    ⟨[("display", "inherit")]⟩]

theorem ofChain_values_asking :
    TextProperty.display.isFontLonghand = false ∧ (ofChain (96 : Rat) asking).text .display = "none" ∧
      (ofChain (96 : Rat) asking).number .fillOpacity = 1 / 2 ∧
      (ofChain (96 : Rat) asking).number .opacity = 1 :=
  have ⟨htexts, hnumbers⟩ := ofChain_values (96 : Rat) asking
  ⟨rfl, (htexts .display rfl).trans (by decide +kernel), (hnumbers .fillOpacity).trans (by decide +kernel),
    (hnumbers .opacity).trans (by decide +kernel)⟩

end Style

end SvgPage
