import SvgPage.Proofs.Drawing.Intends
import SvgPage.Proofs.Element.Alike
import SvgPage.Proofs.Element.Merge
import SvgPage.Proofs.Element.Reference
import SvgPage.Proofs.Geometry.Outline
import SvgPage.Proofs.Geometry.Transform

namespace SvgPage

namespace Use

open Attributes

/-- The attributes by which a `use` moves the element it stands for. -/
def movingAttributes : List String := ["x", "y", "transform"]

/-- A `use` of the same element that leaves it in its place. -/
def unmoved (use : Attributes) : Attributes := movingAttributes.foldl Table.erase use

variable (α : Type) [Scalar α]

/-- The attributes of the element that a `use` stands for, where the `use` leaves it in its place. -/
def inPlace (name : String) (element use : Attributes) : Attributes := (merge α name element (unmoved use)).2

/-- Whether a length is the number that its text begins with, whatever lengths refer to. -/
def IsPlain (attributes : Attributes) (axis : String) : Prop :=
  ∀ value, attributes.get? axis = some value →
    ∀ (reference : α) context, Css.Length.read? value reference context = readNumber? value

/-- A `use` by which an element is moved as it says: the lengths that are rewritten are plain numbers, sums are
    written exactly, and nothing in the transform is left open at its end. -/
structure MovesExactly (name : String) (element use : Attributes) : Prop where
  plain : ∀ axis ∈ ["x", "y"], IsPlain α use axis
  plainOwn : ElementKind.ofName name = .shape .rect →
    ∀ axis ∈ ["x", "y"], use.contains axis = true → IsPlain α element axis
  prints : ElementKind.ofName name ≠ .shape .rect → ∀ axis ∈ ["x", "y"], Scalar.Prints (readOffset α use axis)
  printsSum : ElementKind.ofName name = .shape .rect →
    ∀ axis ∈ ["x", "y"], Scalar.Prints (readOffset α element axis + readOffset α use axis)
  complete : Css.isComplete ((use.get? "transform").getD "") = true

variable {α}

/-- The map by which a `use` moves an element of a kind. A rectangle takes up the offset itself, so that it is
    shifted before its own transform acts; everything else is shifted after that. -/
def placement (kind : ElementKind) (x y : α) (outer own : Matrix α) : Matrix α :=
  if kind = .shape .rect then
    outer.multiply (own.multiply (.shift x y))
  else
    outer.multiply ((Matrix.shift x y).multiply own)

section Unmoved

variable {use : Attributes} {name : String}

theorem get?_unmoved (h : name ∉ movingAttributes) : (unmoved use).get? name = use.get? name :=
  Table.get?_foldl_erase_of_notMem h use

theorem get?_unmoved_of_mem (h : name ∈ movingAttributes) : (unmoved use).get? name = none :=
  Table.get?_foldl_erase_of_mem h use

/-- In its place an element has all its attributes that the `use` does not have. -/
theorem get?_inPlace [Scalar.Comparable α] {other : String} (hdropped : other ∉ droppedAttributes)
    (h : other ∈ movingAttributes ∨ other ∉ use.names) (element : Attributes) :
    (inPlace α name element use).get? other = element.get? other := by
  have hmoving {axis : String} (haxis : axis ∈ movingAttributes) : (unmoved use).get? axis = none :=
    get?_unmoved_of_mem haxis
  refine get?_merge_own (hmoving (by decide)) (hmoving (by decide)) (hmoving (by decide)) hdropped ?_ name element
  by_cases hother : other ∈ movingAttributes
  · exact hmoving hother
  · rw [get?_unmoved hother, ← Option.not_isSome_iff_eq_none, ← Table.mem_names_iff]
    exact h.resolve_left hother

/-- What moves the element is not handed to it. -/
theorem filter_unmoved (use : Attributes) :
    (unmoved use).entries.filter (fun entry => !ownAttributes.contains entry.1) =
      use.entries.filter fun entry => !ownAttributes.contains entry.1 := by
  have herase (t : Attributes) {name : String} (hname : ownAttributes.contains name = true) :
      (t.erase name).entries.filter (fun entry => !ownAttributes.contains entry.1) =
        t.entries.filter fun entry => !ownAttributes.contains entry.1 := by
    rw [Table.erase, List.filter_filter]
    congr 1
    funext entry
    by_cases hentry : entry.1 = name
    · rw [hentry, hname, Bool.not_true, Bool.false_and]
    · rw [bne_iff_ne.2 hentry, Bool.and_true]
  simp only [unmoved, movingAttributes, List.foldl_cons, List.foldl_nil]
  rw [herase _ (by decide), herase _ (by decide), herase _ (by decide)]

/-- A `use` makes the same element of another one, moved or not, but for what moves it. -/
theorem merge_agreeOutside (name : String) (element use : Attributes) :
    AgreeOutside movingAttributes (merge α name element use).2 (inPlace α name element use) := by
  have hmoved (axis : String) (haxis : axis ∈ movingAttributes) (use merged : Attributes) :
      AgreeOutside movingAttributes (addOffset α axis element use merged) merged := by
    rw [addOffset]
    split
    · exact (AgreeOutside.refl _ _).set_left haxis _
    · exact .refl _ _
  have hplaced (condition : Bool) (use merged : Attributes) :
      AgreeOutside movingAttributes
        (if condition then addOffset α "y" element use (addOffset α "x" element use merged) else merged)
        merged := by
    split
    · exact (hmoved "y" (by decide) _ _).trans (hmoved "x" (by decide) _ _)
    · exact .refl _ _
  have htransformed (text : String) (merged : Attributes) :
      AgreeOutside movingAttributes (setGiven "transform" text merged) merged := by
    rw [setGiven]
    split
    · exact .refl _ _
    · exact (AgreeOutside.refl _ _).set_left (by decide) _
  have hmerged (text : String) (condition : Bool) (use merged : Attributes) :
      AgreeOutside movingAttributes
        (setGiven "transform" text
          (if condition then addOffset α "y" element use (addOffset α "x" element use merged) else merged))
        merged :=
    (htransformed _ _).trans (hplaced _ _ _)
  have hset {first second : Attributes} (h : AgreeOutside movingAttributes first second) (text : String) :
      AgreeOutside movingAttributes (setGiven "style" text first) (setGiven "style" text second) := by
    rw [setGiven, setGiven]
    split
    · exact h
    · exact h.set _ _
  have hsized {first second : Attributes} (h : AgreeOutside movingAttributes first second) (dimension : String) :
      AgreeOutside movingAttributes (sized use first dimension) (sized use second dimension) := by
    rw [sized, sized]
    split
    · exact h.set _ _
    · exact h
  simp only [inPlace, merge, filter_unmoved, get?_unmoved (by decide : "style" ∉ _),
    get?_unmoved (by decide : "width" ∉ _), get?_unmoved (by decide : "height" ∉ _), List.foldl_cons,
    List.foldl_nil]
  generalize ElementKind.ofName (if localName name == "symbol" then "svg" else name) = kind
  by_cases hkind : (kind == .svg) = true
  · rw [if_pos hkind, if_pos hkind]
    refine hsized (hsized (hset ?_ _) "width") "height"
    exact (hmerged _ _ _ _).trans (hmerged _ _ _ _).symm
  · rw [if_neg hkind, if_neg hkind]
    refine hset ?_ _
    exact (hmerged _ _ _ _).trans (hmerged _ _ _ _).symm

end Unmoved

section Transform

theorem getD_filter (part : Option String) :
    (part.filter fun text => !text.isEmpty).getD "" = part.getD "" := by
  cases part with
  | none => rfl
  | some text =>
    rw [Option.filter_some]
    split
    · rfl
    next hempty =>
      rw [Bool.not_eq_true, Bool.not_eq_false', String.isEmpty_iff] at hempty
      exact hempty.symm

/-- A part is left out, stands alone, or stands in front of the rest. -/
theorem joinGiven_cons (separator : String) (first : Option String) (rest : List (Option String)) :
    (first.getD "" = "" ∧ joinGiven separator (first :: rest) = joinGiven separator rest) ∨
      (first.getD "" ≠ "" ∧ joinGiven separator rest = "" ∧
        joinGiven separator (first :: rest) = first.getD "") ∨
      (first.getD "" ≠ "" ∧
        joinGiven separator (first :: rest) = first.getD "" ++ separator ++ joinGiven separator rest) := by
  rw [joinGiven, joinGiven, ← getD_filter first]
  cases hfirst : first.filter fun text => !text.isEmpty with
  | none => exact .inl ⟨rfl, by rw [List.filterMap_cons_none hfirst]⟩
  | some text =>
    have hnonempty : text ≠ "" := by
      have htext := (Option.filter_eq_some_iff.1 hfirst).2
      rwa [Bool.not_eq_true', ← Bool.not_eq_true, String.isEmpty_iff] at htext
    rw [List.filterMap_cons_some hfirst]
    cases hrest : rest.filterMap fun part => part.filter fun text => !text.isEmpty with
    | nil => exact .inr (.inl ⟨hnonempty, String.intercalate_nil, String.intercalate_singleton⟩)
    | cons second others => exact .inr (.inr ⟨hnonempty, String.intercalate_cons_cons⟩)

theorem joinGiven_cons_eq_empty {separator : String} {first : Option String} {rest : List (Option String)}
    (h : joinGiven separator (first :: rest) = "") : first.getD "" = "" ∧ joinGiven separator rest = "" := by
  obtain ⟨hfirst, hjoined⟩ | ⟨hfirst, hrest, hjoined⟩ | ⟨hfirst, hjoined⟩ := joinGiven_cons separator first rest
  · exact ⟨hfirst, hjoined ▸ h⟩
  · exact absurd (hjoined ▸ h) hfirst
  · rw [hjoined, String.append_eq_empty_iff, String.append_eq_empty_iff] at h
    exact absurd h.1.1 hfirst

/-- Transforms that are joined denote the product of the first one and the rest. -/
theorem read_joinGiven [Scalar.Exact α] {first : Option String} (hfirst : Css.isComplete (first.getD "") = true)
    (rest : List (Option String)) :
    (Transform.read (joinGiven " " (first :: rest)) : Matrix α) =
      (Transform.read (first.getD "")).multiply (Transform.read (joinGiven " " rest)) := by
  obtain ⟨hempty, hjoined⟩ | ⟨-, hrest, hjoined⟩ | ⟨-, hjoined⟩ := joinGiven_cons " " first rest
  · rw [hjoined, hempty, Transform.read_empty, Matrix.identity_multiply]
  · rw [hjoined, hrest, Transform.read_empty, Matrix.multiply_identity]
  · rw [hjoined, Transform.read_append hfirst]

theorem getD_get?_setGiven {name text : String} {merged : Attributes}
    (h : text = "" → (merged.get? name).getD "" = "") : ((setGiven name text merged).get? name).getD "" = text := by
  rw [setGiven]
  split
  next hempty =>
    rw [String.isEmpty_iff] at hempty
    rw [h hempty, hempty]
  · rw [Table.get?_set, if_pos rfl, Option.getD_some]

/-- The transform of the element that a `use` stands for. -/
theorem getD_transform_merge (name : String) (element use : Attributes) :
    ((merge α name element use).2.get? "transform").getD "" =
      joinedTransform α (.ofName (merge α name element use).1) element use := by
  rw [get?_merge_placed (by decide)]
  apply getD_get?_setGiven
  intro hempty
  have hown := (joinGiven_cons_eq_empty (joinGiven_cons_eq_empty (joinGiven_cons_eq_empty hempty).2).2).1
  rwa [get?_placed (by decide) (by decide), get?_replaced_own (by decide) (by decide)]

/-- The function that moves an element shifts it, and is left out where it would not. -/
theorem shift?_exact [Scalar.Exact α] {use : Attributes} (hx : Scalar.Prints (readOffset α use "x"))
    (hy : Scalar.Prints (readOffset α use "y")) :
    Css.isComplete ((shift? α use).getD "") = true ∧
      Transform.read ((shift? α use).getD "") = Matrix.shift (readOffset α use "x") (readOffset α use "y") := by
  simp only [shift?]
  split
  · exact ⟨Transform.isComplete_shiftText hx hy, Transform.read_shiftText hx hy⟩
  next hnone =>
    simp only [bne, Bool.not_eq_true, Bool.or_eq_false_iff, Bool.not_eq_false', Scalar.Exact.beq_iff_eq] at hnone
    rw [hnone.1, hnone.2]
    exact ⟨Css.isComplete_empty, Transform.read_empty⟩

/-- It is that of the `use` after the shift, if there is one, after its own. -/
theorem transform_merge [Scalar.Exact α] {name : String} (hname : ElementKind.ofName name ≠ .symbol)
    {element use : Attributes} (hcomplete : Css.isComplete ((use.get? "transform").getD "") = true)
    (hprints : (ElementKind.ofName name).isPositioned = false →
      Scalar.Prints (readOffset α use "x") ∧ Scalar.Prints (readOffset α use "y")) :
    ((merge α name element use).2.transform : Matrix α) =
      use.transform.multiply
        ((if (ElementKind.ofName name).isPositioned then .identity
          else Matrix.shift (readOffset α use "x") (readOffset α use "y")).multiply element.transform) := by
  let shift := if (ElementKind.ofName name).isPositioned then none else shift? α use
  have hshift : Css.isComplete (shift.getD "") = true ∧ Transform.read (shift.getD "") =
      if (ElementKind.ofName name).isPositioned then (.identity : Matrix α)
      else .shift (readOffset α use "x") (readOffset α use "y") := by
    cases hpositioned : (ElementKind.ofName name).isPositioned with
    | true =>
      simp only [shift, hpositioned, if_true]
      exact ⟨Css.isComplete_empty, Transform.read_empty⟩
    | false =>
      obtain ⟨hx, hy⟩ := hprints hpositioned
      simp only [shift, hpositioned, Bool.false_eq_true, if_false]
      exact shift?_exact hx hy
  have hown : joinGiven " " [element.get? "transform"] = (element.get? "transform").getD "" := by
    rw [joinGiven_singleton, getD_filter]
  rw [Attributes.transform, getD_transform_merge, name_merge hname, joinedTransform, read_joinGiven hcomplete,
    read_joinGiven hshift.1, hshift.2, hown]
  rfl

end Transform

section Outline

variable {use : Attributes} {axis : String}

/-- The length in an attribute, or zero. -/
def readLength (attributes : Attributes) (name : String) (reference : α) (lengths : Css.LengthContext α) : α :=
  (attributes.get? name >>= fun value => Css.Length.read? value reference lengths).getD 0

/-- A plain length is the number. -/
theorem readLength_eq_readOffset {attributes : Attributes} (h : IsPlain α attributes axis) (reference : α)
    (lengths : Css.LengthContext α) :
    readLength attributes axis reference lengths = readOffset α attributes axis := by
  rw [readLength, readOffset]
  cases hvalue : attributes.get? axis with
  | none => rfl
  | some value => exact congrArg (Option.getD · 0) (h value hvalue reference lengths)

theorem IsPlain.of_prints {attributes : Attributes} {x : α} (hx : Scalar.Prints x)
    (h : attributes.get? axis = some (Scalar.toText x)) : IsPlain α attributes axis := by
  intro value hvalue reference lengths
  obtain rfl : Scalar.toText x = value := Option.some.inj (h.symm.trans hvalue)
  rw [hx.read?_eq, hx.readNumber?_eq]

theorem get?_addOffset_self (element use merged : Attributes) :
    (addOffset α axis element use merged).get? axis =
      if use.contains axis then
        some (Scalar.toText (readOffset α element axis + readOffset α use axis))
      else
        merged.get? axis := by
  rw [addOffset]
  split
  · rw [Table.get?_set, if_pos rfl]
  · rfl

/-- The position of a rectangle that a `use` stands for. -/
theorem get?_merge_axis {name : String} (hname : ElementKind.ofName name = .shape .rect)
    (haxis : axis ∈ ["x", "y"]) (element use : Attributes) :
    (merge α name element use).2.get? axis =
      if use.contains axis then
        some (Scalar.toText (readOffset α element axis + readOffset α use axis))
      else
        element.get? axis := by
  have hsymbol : ElementKind.ofName name ≠ .symbol := by
    rw [hname]
    decide
  have hplaced : placed α (.ofName name) element use =
      addOffset α "y" element use (addOffset α "x" element use (replaced element use)) := by
    rw [placed, hname]
    rfl
  simp only [List.mem_cons, List.not_mem_nil, or_false] at haxis
  obtain rfl | rfl := haxis
  · rw [get?_merge_placed (by decide), name_merge hsymbol, hplaced, get?_setGiven (by decide),
      get?_addOffset (by decide), get?_addOffset_self, get?_replaced_own (by decide) (by decide)]
  · rw [get?_merge_placed (by decide), name_merge hsymbol, hplaced, get?_setGiven (by decide),
      get?_addOffset_self, get?_addOffset (by decide), get?_replaced_own (by decide) (by decide)]

theorem contains_unmoved (h : axis ∈ movingAttributes) : (unmoved use).contains axis = false := by
  rw [Table.contains, get?_unmoved_of_mem h, Option.isSome_none]

theorem readOffset_of_not_contains (h : use.contains axis = false) : readOffset α use axis = 0 := by
  rw [Table.contains, Option.isSome_eq_false_iff, Option.isNone_iff_eq_none] at h
  rw [readOffset, h]
  rfl

section Exact

variable [Scalar.Exact α] {name : String} {element : Attributes}

/-- A rectangle that a `use` stands for is shifted by the lengths of the `use`. -/
theorem MovesExactly.readLength_merge (h : MovesExactly α name element use)
    (hname : ElementKind.ofName name = .shape .rect) (haxis : axis ∈ ["x", "y"]) (reference : α)
    (lengths : Css.LengthContext α) :
    readLength (merge α name element use).2 axis reference lengths =
      readLength (inPlace α name element use) axis reference lengths + readOffset α use axis := by
  have hmoving : axis ∈ movingAttributes := List.mem_append_left ["transform"] haxis
  have hplace : readLength (inPlace α name element use) axis reference lengths =
      readLength element axis reference lengths := by
    rw [readLength, inPlace, get?_merge_axis hname haxis, contains_unmoved hmoving]
    rfl
  rw [hplace]
  cases hcontains : use.contains axis with
  | true =>
    rw [readLength_eq_readOffset (h.plainOwn hname axis haxis hcontains), readLength,
      get?_merge_axis hname haxis, hcontains, if_pos rfl]
    exact congrArg (Option.getD · 0) ((h.printsSum hname axis haxis).read?_eq reference lengths)
  | false =>
    rw [readOffset_of_not_contains hcontains, Scalar.Exact.add_zero, readLength, get?_merge_axis hname haxis,
      hcontains]
    rfl

/-- The transform of everything else places it. -/
theorem MovesExactly.transform_merge (h : MovesExactly α name element use)
    (hpositioned : (ElementKind.ofName name).isPositioned = false) (hsymbol : ElementKind.ofName name ≠ .symbol) :
    ((merge α name element use).2.transform : Matrix α) =
      placement (.ofName name) (readOffset α use "x") (readOffset α use "y") use.transform element.transform := by
  have hother : ElementKind.ofName name ≠ .shape .rect := by
    intro hrect
    rw [hrect] at hpositioned
    cases hpositioned
  have hprints := h.prints hother
  rw [placement, if_neg hother, Use.transform_merge hsymbol h.complete fun _ =>
    ⟨hprints "x" (by decide), hprints "y" (by decide)⟩, hpositioned]
  rfl

/-- An outline lies where the placement takes it that it has in place. -/
theorem MovesExactly.outline_merge (h : MovesExactly α name element use) {kind : ShapeKind}
    (hname : ElementKind.ofName name = .shape kind) (context : ShapeContext α) (matrix : Matrix α)
    (pageHeight : α) :
    ((context.path? (merge α name element use).2 kind).map fun path =>
        path.operators pageHeight (matrix.multiply (merge α name element use).2.transform)) =
      (context.path? (inPlace α name element use) kind).map fun path =>
        path.operators pageHeight (matrix.multiply (placement (.shape kind) (readOffset α use "x")
          (readOffset α use "y") use.transform element.transform)) := by
  have hsymbol : ElementKind.ofName name ≠ .symbol := by
    rw [hname]
    exact ElementKind.noConfusion
  have hagree := merge_agreeOutside (α := α) name element use
  by_cases hkind : kind = .rect
  · subst hkind
    have hx : context.horizontal (merge α name element use).2 "x" =
        context.horizontal (inPlace α name element use) "x" + readOffset α use "x" :=
      h.readLength_merge hname (by decide) _ _
    have hy : context.vertical (merge α name element use).2 "y" =
        context.vertical (inPlace α name element use) "y" + readOffset α use "y" :=
      h.readLength_merge hname (by decide) _ _
    have htransform : ((merge α name element use).2.transform : Matrix α) =
        use.transform.multiply element.transform := by
      rw [Use.transform_merge hsymbol h.complete (fun hnone => absurd (hname ▸ hnone) (by decide)), hname]
      exact congrArg _ (Matrix.identity_multiply _)
    simp only [ShapeContext.path?, ShapeContext.rect?, hx, hy, hagree.horizontal_eq context (by decide : "width" ∉ _),
      hagree.vertical_eq context (by decide : "height" ∉ _), hagree.horizontal?_eq context (by decide : "rx" ∉ _),
      hagree.vertical?_eq context (by decide : "ry" ∉ _), htransform]
    split
    · rfl
    · simp only [Option.map_some, Path.operators_rect, placement, if_true, Matrix.multiply_assoc]
  · have hpositioned : (ElementKind.shape kind).isPositioned = false := by
      cases kind <;> first | rfl | exact absurd rfl hkind
    have hpath := hagree.path?_eq context kind (by cases kind <;> first | decide | exact absurd rfl hkind)
    have hplacement := h.transform_merge (hname ▸ hpositioned) hsymbol
    rw [hpath, hplacement, hname]

end Exact

end Outline

end Use

end SvgPage
