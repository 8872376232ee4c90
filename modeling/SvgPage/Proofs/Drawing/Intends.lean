import SvgPage.Markup.Event
import SvgPage.Proofs.Drawing.Sheet

namespace SvgPage

variable {α : Type} [Scalar α]

open GraphicsState

/-- The map that an element applies to its content. -/
def Attributes.transform (attributes : Attributes) : Matrix α :=
  Transform.read ((attributes.get? "transform").getD "")

theorem read_transform (attributes : Attributes) :
    (Transform.read ((attributes.get? "transform").getD "") : Matrix α) = attributes.transform := rfl

/-- How far the color of a run of text covers what lies under it, if the run is painted. Gradients paint text
    black. -/
def Style.textAlpha? (style : Style α) : Option α :=
  match Paint.read (style.text .fill) style with
  | .none => none
  | .gradient .. => some 1
  | .color token => (ResolvedColor.read? token : Option (ResolvedColor α)).map ResolvedColor.alpha

namespace Frame

/-- The graphics state of an image in a frame. -/
def imageGraphics (frame : Frame α) (style : Style α) (transform : Matrix α) : GraphicsState α :=
  let alpha := frame.opacity * style.number .opacity
  frame.elementGraphics transform style alpha alpha

/-- The graphics state of text in a frame, in a color with an alpha. -/
def textGraphics (frame : Frame α) (colorAlpha : α) : GraphicsState α :=
  let style := frame.style
  let alpha := frame.opacity * style.number .opacity * style.number .fillOpacity * colorAlpha
  ⟨frame.ctm, alpha, alpha, frame.blend style.blendMode⟩

end Frame

namespace Document

/-- What the area of a shape is painted with. -/
def fillOf (setting : Setting α) (document : Document α) (style : Style α) (path : Path α) :
    ResolvedPaint α :=
  let box := path.boundingBox.toBox
  (ResolvedPaint.read setting document (style.text .fill) style box {}).1.forFill box

/-- What the line of a shape is painted with. -/
def strokeOf (setting : Setting α) (document : Document α) (style : Style α) (path : Path α) :
    ResolvedPaint α :=
  let box := path.boundingBox.toBox
  (ResolvedPaint.read setting document (style.text .stroke) style box {}).1.forStroke
    (style.lineStyle document.frame.viewport (style.lengthContext setting.options.dpi))

/-- The graphics state of a shape with a path. -/
def shapeGraphics (setting : Setting α) (document : Document α) (style : Style α) (path : Path α)
    (transform : Matrix α) : GraphicsState α :=
  let frame := document.frame
  let opacity := frame.opacity * style.number .opacity
  frame.elementGraphics transform style
    (opacity * style.number .fillOpacity * (document.fillOf setting style path).alpha)
    (opacity * style.number .strokeOpacity * (document.strokeOf setting style path).alpha)

/-- The graphics state in which an event paints in a document: a start tag paints a shape or an image, that
    of a span the text before it, and an end tag the text before it. -/
inductive Intends (setting : Setting α) (document : Document α) : MarkupEvent → GraphicsState α → Prop
  | shape {name attributes kind path} (hname : ElementKind.ofName name = .shape kind)
      (hpath :
        let style := document.frame.style.resolve attributes setting.options.dpi
        (document.shapeContext setting style).path? attributes kind = some path) :
      Intends setting document (.startTag name attributes)
        (document.shapeGraphics setting (document.frame.style.resolve attributes setting.options.dpi) path
          attributes.transform)
  | image {name attributes} (hname : ElementKind.ofName name = .image) :
      Intends setting document (.startTag name attributes)
        (document.frame.imageGraphics (document.frame.style.resolve attributes setting.options.dpi)
          attributes.transform)
  | textBefore {name attributes alpha} (hname : ElementKind.ofName name = .span)
      (halpha : document.frame.style.textAlpha? = some alpha) :
      Intends setting document (.startTag name attributes) (document.frame.textGraphics alpha)
  | text {name alpha} (halpha : document.frame.style.textAlpha? = some alpha) :
      Intends setting document (.endTag name) (document.frame.textGraphics alpha)

end Document

theorem ResolvedPaint.ofColor_result (token : String) (ledger : Ledger α) :
    (ofColor token ledger).1 = (ofColor token ({} : Ledger α)).1 := by
  unfold ofColor
  cases (ResolvedColor.read? token : Option (ResolvedColor α)) <;> rfl

/-- Which paint is found does not depend on what has been registered. -/
theorem ResolvedPaint.read_result (setting : Setting α) (document : Document α) (value : String)
    (style : Style α) (box : Box α) (ledger : Ledger α) :
    (read setting document value style box ledger).1 = (read setting document value style box {}).1 := by
  unfold read
  cases Paint.read value style with
  | none => rfl
  | color token => exact ofColor_result token ledger
  | gradient id fallback =>
    dsimp only
    cases Gradient.resolve? document.gradients id _ with
    | some resolved => rfl
    | none =>
      cases fallback with
      | some token => exact ofColor_result _ ledger
      | none => rfl

theorem Document.fillOf_eq (setting : Setting α) (document : Document α) (style : Style α) (path : Path α)
    (ledger : Ledger α) :
    (ResolvedPaint.read setting document (style.text .fill) style path.boundingBox.toBox ledger).1.forFill
      path.boundingBox.toBox = document.fillOf setting style path := by
  rw [ResolvedPaint.read_result]
  rfl

theorem Document.strokeOf_eq (setting : Setting α) (document : Document α) (style : Style α) (path : Path α)
    (ledger : Ledger α) :
    (ResolvedPaint.read setting document (style.text .stroke) style path.boundingBox.toBox ledger).1.forStroke
      (style.lineStyle document.frame.viewport (style.lengthContext setting.options.dpi)) =
        document.strokeOf setting style path := by
  rw [ResolvedPaint.read_result]
  rfl

section Congruence

variable {setting : Setting α} {document other : Document α}

theorem ResolvedPaint.read_congr (hgradients : other.gradients = document.gradients) :
    read setting other = read setting document := by
  funext value style box
  simp only [read, hgradients]

/-- Only the frame of a document and its gradients count for what is intended. -/
theorem Document.Intends.congr {event : MarkupEvent} {intended : GraphicsState α}
    (hframe : other.frame = document.frame) (hgradients : other.gradients = document.gradients)
    (h : other.Intends setting event intended) : document.Intends setting event intended := by
  have hcontext : other.shapeContext setting = document.shapeContext setting := by
    funext style
    simp only [shapeContext, hframe]
  have hgraphics : other.shapeGraphics setting = document.shapeGraphics setting := by
    funext style path transform
    simp only [shapeGraphics, fillOf, strokeOf, hframe, ResolvedPaint.read_congr hgradients]
  cases h with
  | shape hname hpath =>
    rw [hframe, hcontext] at hpath
    rw [hframe, hgraphics]
    exact .shape hname hpath
  | image hname =>
    rw [hframe]
    exact .image hname
  | textBefore hname halpha =>
    rw [hframe] at halpha ⊢
    exact .textBefore hname halpha
  | text halpha =>
    rw [hframe] at halpha ⊢
    exact .text halpha

end Congruence

section Elements

variable [Scalar.Comparable α] {resources : List (Resource α)} {setting : Setting α} {document : Document α}

/-- A figure is painted in a graphics state of its own, which has the map, the limits, the alphas and the
    blend mode of its element. -/
theorem paints_element (frame : Frame α) (transform : Matrix α) (style : Style α) (fillAlpha strokeAlpha : α)
    (pageHeight : α) {clip painted : List (Operator α)}
    (hclip : ∀ operator ∈ clip, operator.isLimiting = true) (ledger : Ledger α)
    (hresources :
      (graphicsState frame style fillAlpha strokeAlpha ledger).2.resources.toList <+: resources)
    (hpainted : ∀ intended, Paints resources pageHeight intended intended painted) :
    Paints resources pageHeight (frame.elementGraphics transform style fillAlpha strokeAlpha) frame.graphics
      ([.save] ++ transform.operators pageHeight ++ clip ++
        (graphicsState frame style fillAlpha strokeAlpha ledger).1 ++ painted ++ [.restore]) := by
  let intended := frame.elementGraphics transform style fillAlpha strokeAlpha
  have hmatrix : (frame.mappedGraphics transform).matrix = intended.matrix := rfl
  have helement : Adjusts resources (marks pageHeight intended) pageHeight frame.graphics
      (transform.operators pageHeight ++ clip ++
        (graphicsState frame style fillAlpha strokeAlpha ledger).1) intended :=
    .element hclip (fun _ hlimiting _ h => marks_of_isLimiting hmatrix hlimiting h) style _ _ ledger
      hresources
  have hall := helement.leaves_saved_of_leaves (hpainted intended)
  simpa only [List.append_assoc] using hall

theorem paints_paintPath (path : Path α) (style : Style α) (transform : Matrix α) (ledger : Ledger α)
    (hresources : (paintPath setting document path style transform ledger).2.resources.toList <+: resources) :
    Paints resources setting.pageHeight (document.shapeGraphics setting style path transform)
      document.frame.graphics (paintPath setting document path style transform ledger).1 := by
  simp only [paintPath, bind_apply, Document.fillOf_eq, Document.strokeOf_eq] at hresources ⊢
  split at hresources
  next hnone =>
    rw [if_pos hnone]
    exact .nil
  next hsome =>
    rw [if_neg hsome]
    simp only [bind_apply, pure_apply] at hresources ⊢
    refine paints_element document.frame transform style _ _ setting.pageHeight
      (isLimiting_clipRegion setting document style _ _) _ ?_ fun intended => ?_
    · refine List.IsPrefix.trans ?_ hresources
      have houtline := ArePlain.outline (path.operators_isConstruction setting.pageHeight .identity)
      exact (Fills.paintOperators houtline _ _ _ _).grows.extends_ledger _
    · exact paints_paintOperators (path.operators_isConstruction _ _) _ _ _ _ _

theorem paints_drawPixels (style : Style α) (transform : Matrix α) (box : Box α) (bytes : List UInt8)
    (ledger : Ledger α)
    (hresources :
      (document.drawPixels setting style transform box bytes ledger).2.resources.toList <+: resources) :
    ∃ operators, (document.drawPixels setting style transform box bytes ledger).1 = document.write operators ∧
      Paints resources setting.pageHeight (document.frame.imageGraphics style transform)
        document.frame.graphics operators := by
  simp only [Document.drawPixels, bind_apply, pure_apply] at hresources ⊢
  refine ⟨_, rfl, ?_⟩
  refine paints_element document.frame transform style _ _ setting.pageHeight
    (isLimiting_clipRegion setting document style _ _) _ ?_ fun intended => ?_
  · refine List.IsPrefix.trans ?_ hresources
    exact (Fills.imageOperators _ bytes).grows.extends_ledger _
  · exact paints_imageOperators _ _ _

theorem paints_showRun (frame : Frame α) (run : TextRun α) (color : DeviceColor α) (colorAlpha pageHeight : α)
    (ledger : Ledger α)
    (hresources : (showRun frame run color colorAlpha ledger).2.resources.toList <+: resources) :
    Paints resources pageHeight (frame.textGraphics colorAlpha) frame.graphics
      (showRun frame run color colorAlpha ledger).1 := by
  let intended := frame.textGraphics colorAlpha
  have hcover : Adjusts resources (marks pageHeight intended) pageHeight frame.graphics
      (graphicsState frame frame.style intended.fillAlpha intended.fillAlpha ledger).1 intended :=
    .graphicsState frame frame.ctm frame.style _ _ ledger hresources
  have hshown : Paints resources pageHeight intended intended (.fillColor color :: run.operators) :=
    paints_of_not_changesState (by simp [TextRun.operators, Operator.changesState])
  simp only [showRun, bind_apply, pure_apply]
  split
  next hnone =>
    -- Without operators the intended graphics state is the one of the frame.
    have hsame : (graphicsState frame frame.style intended.fillAlpha intended.fillAlpha ledger).1 = [] :=
      List.isEmpty_iff.1 hnone
    rw [hsame] at hcover
    intro actual saved h
    obtain ⟨next, hreads, hnext⟩ := hcover actual saved h
    cases hreads
    exact hshown actual saved hnext
  next hsome =>
    have hall := hcover.leaves_saved_of_leaves hshown
    exact hall

/-- A run of text is painted as intended, if it is painted. -/
theorem paints_paintRun (frame : Frame α) (run : TextRun α) (pageHeight : α) (ledger : Ledger α)
    (hresources : (paintRun frame run ledger).2.resources.toList <+: resources) :
    (paintRun frame run ledger).1 = [] ∨ ∃ alpha, frame.style.textAlpha? = some alpha ∧
      Paints resources pageHeight (frame.textGraphics alpha) frame.graphics (paintRun frame run ledger).1 := by
  simp only [paintRun] at hresources ⊢
  split at hresources
  next hhidden =>
    rw [if_pos hhidden]
    exact .inl rfl
  next hshown =>
    rw [if_neg hshown]
    cases hpaint : Paint.read (frame.style.text .fill) frame.style with
    | none => exact .inl rfl
    | gradient id fallback =>
      have halpha : frame.style.textAlpha? = some 1 := by
        rw [Style.textAlpha?, hpaint]
      rw [hpaint] at hresources
      exact .inr ⟨1, halpha, paints_showRun frame run _ _ pageHeight ledger hresources⟩
    | color token =>
      rw [hpaint] at hresources
      dsimp only at hresources ⊢
      cases hcolor : (ResolvedColor.read? token : Option (ResolvedColor α)) with
      | none => exact .inl rfl
      | some resolved =>
        have halpha : frame.style.textAlpha? = some resolved.alpha := by
          rw [Style.textAlpha?, hpaint]
          simp only [hcolor, Option.map_some]
        rw [hcolor] at hresources
        exact .inr ⟨_, halpha, paints_showRun frame run _ _ pageHeight ledger hresources⟩

end Elements

end SvgPage
