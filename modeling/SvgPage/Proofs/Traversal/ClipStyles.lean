import SvgPage.Proofs.Traversal.ClipPaths

namespace SvgPage

open MarkupEvent (lineages)

variable {α : Type} [Scalar α]

namespace StartTag

/-- The text that an element states for a property, by name or in its `font` value. -/
def stated? (tag : StartTag) (property : TextProperty) : Option String :=
  let source := StyleSource.ofAttributes tag.attributes
  source.text? source.font? property

/-- The size that an element states for its font. -/
def statedSize? (tag : StartTag) : Option String :=
  let source := StyleSource.ofAttributes tag.attributes
  source.fontSize? source.font?

/-- What the nearest of elements inside each other states for a property. -/
def nearest? (lineage : List StartTag) (property : TextProperty) : Option String :=
  lineage.findSome? (·.stated? property)

theorem nearest?_cons (tag : StartTag) (around : List StartTag) (property : TextProperty) :
    nearest? (tag :: around) property = (tag.stated? property).or (nearest? around property) := by
  rw [nearest?, List.findSome?_cons]
  cases tag.stated? property <;> rfl

end StartTag

namespace Style

/-- The style that elements inside each other, innermost first, hand down from the one around them. -/
def handDown (dpi : α) (parent : Style α) (lineage : List StartTag) : Style α :=
  lineage.foldr (fun tag style => style.resolve tag.attributes dpi) parent

theorem handDown_cons (dpi : α) (parent : Style α) (tag : StartTag) (around : List StartTag) :
    handDown dpi parent (tag :: around) = (handDown dpi parent around).resolve tag.attributes dpi := rfl

/-- An inherited property has the value that is stated nearest. -/
theorem handDown_text {property : TextProperty} (hinherited : property.isInherited = true) (dpi : α)
    (parent : Style α) (lineage : List StartTag) :
    (handDown dpi parent lineage).text property =
      (StartTag.nearest? lineage property).getD (parent.text property) := by
  induction lineage with
  | nil => rfl
  | cons tag around ih =>
    have hresolve : (handDown dpi parent (tag :: around)).text property =
        (tag.stated? property).getD ((handDown dpi parent around).text property) := by
      simp only [handDown_cons, resolve, hinherited, Bool.true_or, if_true]
      rfl
    rw [hresolve, StartTag.nearest?_cons]
    cases tag.stated? property with
    | none => exact ih
    | some value => rfl

/-- Elements that state no size for their fonts keep the one around them. -/
theorem handDown_fontSize (dpi : α) (parent : Style α) {lineage : List StartTag}
    (h : ∀ tag ∈ lineage, tag.statedSize? = none) : (handDown dpi parent lineage).fontSize = parent.fontSize := by
  induction lineage with
  | nil => rfl
  | cons tag around ih =>
    obtain ⟨htag, haround⟩ := List.forall_mem_cons.1 h
    have hresolve : (handDown dpi parent (tag :: around)).fontSize = (handDown dpi parent around).fontSize := by
      rw [StartTag.statedSize?] at htag
      rw [handDown_cons, resolve, htag]
    rw [hresolve, ih haround]

end Style

namespace ClipShape

/-- The shape that the innermost of elements inside each other comes to in a clip path if its style is handed
    down by all of them and by the clip path itself. -/
def inheriting? (setting : Setting α) (frame : Frame α) (clip : StartTag) : List StartTag → Option (ClipShape α)
  | [] => none
  | tag :: around =>
    ofElement? setting frame.viewport (.handDown setting.options.dpi frame.style (around ++ [clip]))
      (StartTag.product clip.attributes.transform (tag :: around)) tag

variable {setting : Setting α} {frame : Frame α} {clip tag : StartTag} {around : List StartTag}

/-- Such a shape follows the rule that is stated nearest. -/
theorem evenOdd_inheriting? {shape : ClipShape α} (h : inheriting? setting frame clip (tag :: around) = some shape) :
    shape.evenOdd = ((StartTag.nearest? (tag :: (around ++ [clip])) .clipRule).getD
      (frame.style.text .clipRule) == "evenodd") := by
  rw [← Style.handDown_text rfl setting.options.dpi]
  rw [inheriting?, ofElement?] at h
  split at h
  · obtain ⟨path, -, rfl⟩ := Option.map_eq_some_iff.1 h
    rfl
  · cases h

/-- The size of the font and the rule are all that a shape takes from its parent. -/
theorem ofElement?_congr {parent other : Style α} (viewport : Size α) (matrix : Matrix α)
    (hsize : parent.fontSize = other.fontSize)
    (hrule : (parent.resolve tag.attributes setting.options.dpi).text .clipRule =
      (other.resolve tag.attributes setting.options.dpi).text .clipRule) :
    ofElement? setting viewport parent matrix tag = ofElement? setting viewport other matrix tag := by
  have hlengths : (parent.resolve tag.attributes setting.options.dpi).lengthContext setting.options.dpi =
      (other.resolve tag.attributes setting.options.dpi).lengthContext setting.options.dpi := by
    simp only [Style.lengthContext, Style.resolve, hsize]
  simp only [ofElement?, hlengths, hrule]

/-- A shape that states its own rule, or around which none is stated, inherits what it should unless a font
    size is stated around it. -/
theorem ofLineage?_eq_inheriting? (setting : Setting α) (frame : Frame α)
    (hrule : (tag.stated? .clipRule).isSome = true ∨ StartTag.nearest? (around ++ [clip]) .clipRule = none)
    (hsize : ∀ outer ∈ around ++ [clip], outer.statedSize? = none) :
    ofLineage? setting frame clip.attributes.transform (tag :: around) =
      inheriting? setting frame clip (tag :: around) := by
  refine ofElement?_congr _ _ (Style.handDown_fontSize _ _ hsize).symm ?_
  have hinherited : TextProperty.clipRule.isInherited = true := rfl
  have hown := Style.handDown_text hinherited setting.options.dpi frame.style [tag]
  have hall := Style.handDown_text hinherited setting.options.dpi frame.style (tag :: (around ++ [clip]))
  have hsame : StartTag.nearest? [tag] .clipRule = StartTag.nearest? (tag :: (around ++ [clip])) .clipRule := by
    rw [StartTag.nearest?_cons, StartTag.nearest?_cons]
    obtain hstated | hunstated := hrule
    · rw [Option.or_of_isSome hstated, Option.or_of_isSome hstated]
    · rw [hunstated]
      rfl
  exact hown.trans (hsame ▸ hall.symm)

end ClipShape

namespace Exact

/-- The start tag of a clip path with a rule for its shapes. -/
def ruling : StartTag := ⟨"clipPath", ⟨[("id", "c"), ("clip-rule", "evenodd")]⟩⟩

/-- The start tag of a rectangle. -/
def plain : StartTag := ⟨"rect", ⟨[("width", "5"), ("height", "4")]⟩⟩

/-- The start tag of a rectangle with a rule of its own. -/
def ruled : StartTag := ⟨"rect", ⟨[("width", "5"), ("height", "4"), ("clip-rule", "evenodd")]⟩⟩

/-- The start tag of a group that is scaled. -/
def scaling : StartTag := ⟨"g", ⟨[("transform", "scale(2)")]⟩⟩

/-- The rectangle with its rule in the group. -/
def grouped : List MarkupEvent :=
  [.startTag scaling.name scaling.attributes, .startTag ruled.name ruled.attributes, .endTag "rect", .endTag "g"]

end Exact

namespace Stage

variable {setting : Setting α} {embed : Option (Embedding α)} {stage : Stage α} {events content : List MarkupEvent}
  {name : String} {attributes : Attributes}

/-- A shape of a clip path has the style that the elements around it and the clip path hand down, as long as
    none of them states a font size, and none states the rule that the shape leaves open. -/
theorem clipShapes_inherit_of_reached (hreached : Reached setting embed events stage)
    (hevents : (Tag.openAfter [] (MarkupEvent.tags events)).isSome = true)
    (hroot : stage.document.rootSeen = true) (hclip : stage.document.clip = none)
    (hname : ElementKind.ofName name = .clipPath) (hcontent : Tag.openAfter [] (MarkupEvent.tags content) = some []) :
    let document := stage.document
    let id := document.clipPathId attributes
    let clip : StartTag := ⟨name, attributes⟩
    let shape? := ClipShape.ofLineage? setting document.frame attributes.transform
    ∃ after unfolded,
      Draw.events setting embed (.startTag name attributes :: (content ++ [.endTag name])) stage.drawing =
          (.ok (), after) ∧
        Unfolds setting document content unfolded ∧
        after.document.clipPaths.get? id = some ((lineages [] unfolded).filterMap shape?) ∧
        ∀ tag around,
          (tag.stated? .clipRule).isSome = true ∨ StartTag.nearest? (around ++ [clip]) .clipRule = none →
          (∀ outer ∈ around ++ [clip], outer.statedSize? = none) →
          shape? (tag :: around) = ClipShape.inheriting? setting document.frame clip (tag :: around) := by
  intro document id clip shape?
  obtain ⟨last, hlast⟩ := Option.isSome_iff_exists.1 hevents
  have hsound := hreached.sound hlast
  obtain ⟨ledger, generated, unfolded, hunfolds, hdrawn⟩ := Draw.clipPath_collects embed hroot hclip
    hsound.registered hsound.holdsElements hname hcontent
  have hshapes := get?_collected document.clipPaths id id ((lineages [] unfolded).filterMap shape?)
  rw [if_pos rfl] at hshapes
  refine ⟨_, unfolded, hdrawn, hunfolds, hshapes, fun tag around hrule hsize => ?_⟩
  have hsame := ClipShape.ofLineage?_eq_inheriting? setting document.frame hrule hsize
  exact hsame

/-- A rectangle that states its own rule in a group of a clip path follows it. -/
theorem clipShapes_inherit_grouped :
    let stage : Stage Rat :=
      ⟨(Draw.events Exact.setting none [Exact.root] (.initial Exact.setting {})).2, [],
        .startTag "clipPath" Exact.shifting :: (Exact.grouped ++ [.endTag "clipPath", .endTag "svg"])⟩
    let document := stage.document
    let shape? := ClipShape.ofLineage? Exact.setting document.frame Exact.shifting.transform
    ∃ after unfolded,
      Draw.events Exact.setting none (.startTag "clipPath" Exact.shifting :: (Exact.grouped ++ [.endTag "clipPath"]))
          stage.drawing = (.ok (), after) ∧
        Unfolds Exact.setting document Exact.grouped unfolded ∧
        after.document.clipPaths.get? "c" = some ((lineages [] unfolded).filterMap shape?) ∧
        shape? [Exact.ruled, Exact.scaling] = ClipShape.inheriting? Exact.setting document.frame
          ⟨"clipPath", Exact.shifting⟩ [Exact.ruled, Exact.scaling] := by
  have hopened : (Draw.events Exact.setting none [Exact.root] (.initial Exact.setting {})).1.isOk = true := by
    decide +kernel
  have hreached : Reached Exact.setting none
      ([Exact.root] ++ .startTag "clipPath" Exact.shifting :: (Exact.grouped ++ [.endTag "clipPath", .endTag "svg"]))
      ⟨_, [], _⟩ := .of_events (Draw.eq_ok hopened)
  obtain ⟨after, unfolded, hdrawn, hunfolds, hshapes, hinherit⟩ :=
    @clipShapes_inherit_of_reached Rat _ Exact.setting none _ _ Exact.grouped "clipPath" Exact.shifting hreached
      (by decide) (by decide +kernel) (by decide +kernel) (by decide) (by decide)
  exact ⟨after, unfolded, hdrawn, hunfolds, hshapes, hinherit _ _ (.inl (by decide +kernel)) (by decide +kernel)⟩

/-- The rule of the clip path itself is lost. -/
theorem clipShapes_inherit_not_ruling :
    let drawing := (Draw.events Exact.setting none [Exact.root] (.initial Exact.setting {})).2
    let clipPath : List MarkupEvent := [.startTag "clipPath" Exact.ruling.attributes,
      .startTag "rect" Exact.plain.attributes, .endTag "rect", .endTag "clipPath"]
    let after := (Draw.events Exact.setting none clipPath drawing).2
    Reached Exact.setting none ([Exact.root] ++ (clipPath ++ [.endTag "svg"]))
        ⟨drawing, [], clipPath ++ [.endTag "svg"]⟩ ∧
      StartTag.nearest? [Exact.plain, Exact.ruling] .clipRule = some "evenodd" ∧
      (after.document.clipPaths.get? "c").map (·.map ClipShape.evenOdd) = some [false] := by
  have hopened : (Draw.events Exact.setting none [Exact.root] (.initial Exact.setting {})).1.isOk = true := by
    decide +kernel
  exact ⟨.of_events (Draw.eq_ok hopened), by decide +kernel, by decide +kernel⟩

end Stage

end SvgPage
