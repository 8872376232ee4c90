import SvgPage.Drawing.Opening
import SvgPage.Element.Shape
import SvgPage.Element.Use
import SvgPage.Proofs.Table

namespace SvgPage

/-- Attributes that say the same of an element, but for those under some names. -/
def Attributes.AgreeOutside (names : List String) (first second : Attributes) : Prop :=
  ∀ name, name ∉ names → first.get? name = second.get? name

/-- Attributes that say the same of an element, whatever its id is and whatever it refers to. -/
def Attributes.Alike (first second : Attributes) : Prop :=
  ∀ name, name ∉ Use.droppedAttributes → first.get? name = second.get? name

open Attributes

variable {α : Type} [Scalar α] {first second : Attributes}

/-- Names under which nothing is said of the style of an element. -/
structure Style.Leaves (names : List String) : Prop where
  style : "style" ∉ names
  fontSize : "font-size" ∉ names
  text : ∀ property : TextProperty, property.name ∉ names
  number : ∀ property : NumberProperty, property.name ∉ names

theorem Style.leaves_droppedAttributes : Style.Leaves Use.droppedAttributes where
  style := by decide
  fontSize := by decide
  text property := by cases property <;> decide
  number property := by cases property <;> decide

/-- The attributes that an outline is read from. -/
def ShapeKind.attributeNames : ShapeKind → List String
  | .path => ["d"]
  | .rect => ["x", "y", "width", "height", "rx", "ry"]
  | .circle => ["cx", "cy", "r"]
  | .ellipse => ["cx", "cy", "rx", "ry"]
  | .line => ["x1", "y1", "x2", "y2"]
  | .polyline | .polygon => ["points"]

namespace Attributes.AgreeOutside

open StyleSource

variable {names : List String}

section Update

omit [Scalar α]

theorem refl (names : List String) (attributes : Attributes) : AgreeOutside names attributes attributes :=
  fun _ _ => rfl

theorem symm (h : AgreeOutside names first second) : AgreeOutside names second first :=
  fun name hname => (h name hname).symm

theorem trans {third : Attributes} (h : AgreeOutside names first second)
    (hsecond : AgreeOutside names second third) : AgreeOutside names first third :=
  fun name hname => (h name hname).trans (hsecond name hname)

/-- What is said under one of the names does not count. -/
theorem set_left (h : AgreeOutside names first second) {name : String} (hname : name ∈ names) (value : String) :
    AgreeOutside names (first.set name value) second := by
  intro other hother
  have hne : other ≠ name := fun hsame => hother (hsame ▸ hname)
  rw [Table.get?_set, if_neg hne, h other hother]

theorem set (h : AgreeOutside names first second) (name value : String) :
    AgreeOutside names (first.set name value) (second.set name value) := by
  intro other hother
  rw [Table.get?_set, Table.get?_set, h other hother]

end Update

section Resolve

theorem declarations_eq (h : AgreeOutside names first second) (hstyle : "style" ∉ names) :
    (ofAttributes first).declarations = (ofAttributes second).declarations := by
  simp only [ofAttributes, h "style" hstyle]

theorem declared?_eq (h : AgreeOutside names first second) (hstyle : "style" ∉ names) {name : String}
    (hname : name ∉ names) :
    (ofAttributes first).declared? name = (ofAttributes second).declared? name := by
  simp only [declared?, h.declarations_eq hstyle]
  simp only [ofAttributes, h name hname]

theorem asksParent_eq (h : AgreeOutside names first second) (hstyle : "style" ∉ names) {name : String}
    (hname : name ∉ names) :
    (ofAttributes first).asksParent name = (ofAttributes second).asksParent name := by
  simp only [asksParent, h.declarations_eq hstyle]
  simp only [ofAttributes, h name hname]

theorem resolve_eq (h : AgreeOutside names first second) (hnames : Style.Leaves names) (parent : Style α)
    (dpi : α) : parent.resolve first dpi = parent.resolve second dpi := by
  have hdeclared {name : String} (hname : name ∉ names) := h.declared?_eq hnames.style hname
  have hparent {name : String} (hname : name ∉ names) := h.asksParent_eq hnames.style hname
  have hfontName : "font" ∉ names := hnames.text .font
  have hfont : (ofAttributes first).font? = (ofAttributes second).font? := by
    rw [font?, font?, hdeclared hfontName]
  have hsize := hdeclared hnames.fontSize
  have htext (property : TextProperty) := hdeclared (hnames.text property)
  have htextParent (property : TextProperty) := hparent (hnames.text property)
  have hnumber (property : NumberProperty) := hdeclared (hnames.number property)
  have hnumberParent (property : NumberProperty) := hparent (hnames.number property)
  simp only [Style.resolve, text?, fontSize?, extra, hfont, hsize, htext, htextParent, hnumber, hnumberParent,
    h.declarations_eq hnames.style]

end Resolve

section Outline

variable (context : ShapeContext α) {name : String}

theorem horizontal?_eq (h : AgreeOutside names first second) (hname : name ∉ names) :
    context.horizontal? first name = context.horizontal? second name := by
  rw [ShapeContext.horizontal?, ShapeContext.horizontal?, h name hname]

theorem vertical?_eq (h : AgreeOutside names first second) (hname : name ∉ names) :
    context.vertical? first name = context.vertical? second name := by
  rw [ShapeContext.vertical?, ShapeContext.vertical?, h name hname]

theorem horizontal_eq (h : AgreeOutside names first second) (hname : name ∉ names) :
    context.horizontal first name = context.horizontal second name := by
  rw [ShapeContext.horizontal, ShapeContext.horizontal, h.horizontal?_eq context hname]

theorem vertical_eq (h : AgreeOutside names first second) (hname : name ∉ names) :
    context.vertical first name = context.vertical second name := by
  rw [ShapeContext.vertical, ShapeContext.vertical, h.vertical?_eq context hname]

theorem diagonal_eq (h : AgreeOutside names first second) (hname : name ∉ names) :
    context.diagonal first name = context.diagonal second name := by
  rw [ShapeContext.diagonal, ShapeContext.diagonal, h name hname]

/-- An outline is told by its own attributes. -/
theorem path?_eq (h : AgreeOutside names first second) (kind : ShapeKind)
    (hnames : ∀ name ∈ kind.attributeNames, name ∉ names) :
    context.path? first kind = context.path? second kind := by
  have hhorizontal {name : String} (hname : name ∈ kind.attributeNames) :=
    h.horizontal_eq context (hnames name hname)
  have hvertical {name : String} (hname : name ∈ kind.attributeNames) :=
    h.vertical_eq context (hnames name hname)
  cases kind with
  | path => rw [ShapeContext.path?, ShapeContext.path?, h "d" (hnames "d" (by decide))]
  | rect =>
    unfold ShapeContext.path? ShapeContext.rect?
    rw [hhorizontal (by decide : "width" ∈ _), hvertical (by decide : "height" ∈ _),
      hhorizontal (by decide : "x" ∈ _), hvertical (by decide : "y" ∈ _),
      h.horizontal?_eq context (hnames "rx" (by decide)), h.vertical?_eq context (hnames "ry" (by decide))]
  | circle =>
    unfold ShapeContext.path? ShapeContext.ellipse?
    rw [h.diagonal_eq context (hnames "r" (by decide)), hhorizontal (by decide : "cx" ∈ _),
      hvertical (by decide : "cy" ∈ _)]
  | ellipse =>
    unfold ShapeContext.path? ShapeContext.ellipse?
    rw [hhorizontal (by decide : "rx" ∈ _), hvertical (by decide : "ry" ∈ _), hhorizontal (by decide : "cx" ∈ _),
      hvertical (by decide : "cy" ∈ _)]
  | line =>
    unfold ShapeContext.path?
    rw [hhorizontal (by decide : "x1" ∈ _), hvertical (by decide : "y1" ∈ _), hhorizontal (by decide : "x2" ∈ _),
      hvertical (by decide : "y2" ∈ _)]
  | polyline | polygon =>
    unfold ShapeContext.path? ShapeContext.path?.polyline?
    rw [h "points" (hnames "points" (by decide))]

end Outline

end Attributes.AgreeOutside

namespace Attributes.Alike

theorem agreeOutside (h : Alike first second) : AgreeOutside Use.droppedAttributes first second := h

theorem resolve_eq (h : Alike first second) (parent : Style α) (dpi : α) :
    parent.resolve first dpi = parent.resolve second dpi :=
  h.agreeOutside.resolve_eq Style.leaves_droppedAttributes parent dpi

theorem path?_eq (h : Alike first second) (context : ShapeContext α) (kind : ShapeKind) :
    context.path? first kind = context.path? second kind :=
  h.agreeOutside.path?_eq context kind (by cases kind <;> decide)

end Attributes.Alike

/-- Whether an element of a kind is drawn where it stands, by itself: it refers to no element, and none
    refers to it to be painted or clipped. -/
def ElementKind.isSelfContained : ElementKind → Bool
  | use | gradient _ | stop | clipPath => false
  | _ => true

namespace Document

variable (setting : Setting α) (document : Document α)

theorem drawShape_congr (h : first.Alike second) (kind : ShapeKind) :
    document.drawShape setting kind first = document.drawShape setting kind second := by
  simp only [drawShape, h.resolve_eq, h.path?_eq, h "transform" (by decide)]

theorem openGroup_congr (h : first.Alike second) :
    document.openGroup setting first = document.openGroup setting second := by
  simp only [openGroup, h.resolve_eq, h "transform" (by decide)]

theorem openNestedSvg_congr (h : first.Alike second) :
    document.openNestedSvg setting first = document.openNestedSvg setting second := by
  simp (disch := decide) only [openNestedSvg, viewBox?, aspectRatio, h.resolve_eq, h "transform", h "viewBox",
    h "preserveAspectRatio", h "x", h "y", h "width", h "height"]

theorem openText_congr (h : first.Alike second) :
    document.openText setting first = document.openText setting second := by
  simp (disch := decide) only [openText, readPosition?, readShift, h.resolve_eq, h "transform", h "x", h "y",
    h "dx", h "dy"]

theorem openSpan_congr (h : first.Alike second) :
    document.openSpan setting first = document.openSpan setting second := by
  simp (disch := decide) only [openSpan, readPosition?, readShift, openText_congr setting document h, h.resolve_eq,
    h "x", h "y", h "dx", h "dy"]

theorem openClipElement_congr (h : first.Alike second) (clip : ClipCapture α) (kind : ElementKind) :
    document.openClipElement setting clip kind first = document.openClipElement setting clip kind second := by
  simp only [openClipElement, h.resolve_eq, h.path?_eq, h "transform" (by decide)]

/-- Attributes that say the same make no difference. -/
theorem openElement_congr (h : first.Alike second) {kind : ElementKind} (hkind : kind.isSelfContained = true)
    (himage : kind ≠ .image) :
    document.openElement setting kind first = document.openElement setting kind second := by
  have hdrawn : document.openDrawn setting kind first = document.openDrawn setting kind second := by
    cases kind with
    | svg => simp only [openDrawn, openNestedSvg_congr setting document h]
    | group => simp only [openDrawn, openGroup_congr setting document h]
    | text => simp only [openDrawn, openText_congr setting document h]
    | span => simp only [openDrawn, openSpan_congr setting document h]
    | shape shape => simp only [openDrawn, drawShape_congr setting document h]
    | image => exact absurd rfl himage
    | use => cases hkind
    | _ => rfl
  unfold openElement
  cases document.clip with
  | some clip =>
    cases kind with
    | use | gradient _ | stop | clipPath => cases hkind
    | _ => simp only [openClipElement_congr setting document h]
  | none =>
    cases kind with
    | use | gradient _ | stop | clipPath => cases hkind
    | defs | symbol => rfl
    | _ => simp only [hdrawn]

end Document

end SvgPage
