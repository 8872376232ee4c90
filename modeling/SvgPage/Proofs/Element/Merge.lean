import SvgPage.Element.Use
import SvgPage.Proofs.Table

namespace SvgPage

namespace Use

variable {α : Type} [Scalar α] {other : String} {use : Attributes}

theorem get?_addOffset {name : String} (h : other ≠ name) (element use merged : Attributes) :
    (addOffset α name element use merged).get? other = merged.get? other := by
  rw [addOffset]
  split
  · rw [Table.get?_set, if_neg h]
  · rfl

omit [Scalar α] in
theorem get?_setGiven {name : String} (h : other ≠ name) (value : String) (merged : Attributes) :
    (setGiven name value merged).get? other = merged.get? other := by
  rw [setGiven]
  split
  · rfl
  · rw [Table.get?_set, if_neg h]

/-- Only a symbol is given another name. -/
theorem name_merge {name : String} (hname : ElementKind.ofName name ≠ .symbol) (element use : Attributes) :
    (merge α name element use).1 = name := by
  have hlocal : (localName name == "symbol") = false := by
    rw [beq_eq_false_iff_ne]
    intro hsymbol
    apply hname
    rw [ElementKind.ofName, hsymbol]
    rfl
  simp only [merge, hlocal, Bool.false_eq_true, if_false]

/-- The attributes of an element and a `use`, those of the `use` first, but for those that need more than
    that. -/
def replaced (element use : Attributes) : Attributes :=
  droppedAttributes.foldl Table.erase (element.setAll (use.entries.filter fun entry =>
    !ownAttributes.contains entry.1))

variable (α) in
/-- The attributes of an element that a `use` has moved, if it has a position. -/
def placed (kind : ElementKind) (element use : Attributes) : Attributes :=
  if kind.isPositioned then
    addOffset α "y" element use (addOffset α "x" element use (replaced element use))
  else
    replaced element use

variable (α) in
/-- The transform of an element and a `use`, with the function that moves the element in between, if it has no
    position. -/
def joinedTransform (kind : ElementKind) (element use : Attributes) : String :=
  joinGiven " " [use.get? "transform", if kind.isPositioned then none else shift? α use,
    element.get? "transform"]

/-- The attributes of an element with a size that a `use` has. -/
def sized (use merged : Attributes) (dimension : String) : Attributes :=
  match use.get? dimension with
  | some value => merged.set dimension value
  | none => merged

theorem get?_sized {dimension : String} (h : other ≠ dimension) (use merged : Attributes) :
    (sized use merged dimension).get? other = merged.get? other := by
  rw [sized]
  split
  · rw [Table.get?_set, if_neg h]
  · rfl

/-- What a `use` does not have it does not replace. -/
theorem get?_replaced (h : use.get? other = none) (hdropped : other ∉ droppedAttributes) (element : Attributes) :
    (replaced element use).get? other = element.get? other := by
  rw [replaced, Table.get?_foldl_erase_of_notMem hdropped]
  apply Table.get?_setAll_of_notMem
  intro hmem
  obtain ⟨entry, hentry, rfl⟩ := List.mem_map.1 hmem
  have hnames : entry.1 ∈ use.names := List.mem_map_of_mem (List.mem_filter.1 hentry).1
  have hsome := Table.mem_names_iff.1 hnames
  rw [h] at hsome
  cases hsome

/-- What a `use` does not replace is the element's own. -/
theorem get?_replaced_own (h : other ∈ ownAttributes) (hdropped : other ∉ droppedAttributes)
    (element use : Attributes) : (replaced element use).get? other = element.get? other := by
  rw [replaced, Table.get?_foldl_erase_of_notMem hdropped]
  apply Table.get?_setAll_of_notMem
  intro hmem
  obtain ⟨entry, hentry, rfl⟩ := List.mem_map.1 hmem
  have hother := (List.mem_filter.1 hentry).2
  rw [List.contains_iff_mem.2 h] at hother
  cases hother

theorem get?_placed (hx : other ≠ "x") (hy : other ≠ "y") (kind : ElementKind) (element use : Attributes) :
    (placed α kind element use).get? other = (replaced element use).get? other := by
  rw [placed]
  split
  · rw [get?_addOffset hy, get?_addOffset hx]
  · rfl

/-- Apart from style and size, an element is placed and given a transform. -/
theorem get?_merge_placed (h : other ∉ ["style", "width", "height"]) (name : String) (element use : Attributes) :
    let kind := ElementKind.ofName (merge α name element use).1
    (merge α name element use).2.get? other =
      (setGiven "transform" (joinedTransform α kind element use) (placed α kind element use)).get? other := by
  simp only [List.mem_cons, List.not_mem_nil, or_false, not_or] at h
  obtain ⟨hstyle, hwidth, hheight⟩ := h
  simp only [merge, List.foldl_cons, List.foldl_nil]
  generalize ElementKind.ofName (if localName name == "symbol" then "svg" else name) = kind
  by_cases hkind : (kind == .svg) = true
  · rw [if_pos hkind]
    refine (get?_sized hheight use _).trans ((get?_sized hwidth use _).trans ?_)
    exact get?_setGiven hstyle _ _
  · rw [if_neg hkind]
    exact get?_setGiven hstyle _ _

/-- Attributes that do not place or style an element are those of the `use`, or else the element's own. -/
theorem get?_merge (h : other ∉ ["x", "y", "transform", "style", "width", "height"]) (name : String)
    (element use : Attributes) :
    (merge α name element use).2.get? other = (replaced element use).get? other := by
  simp only [List.mem_cons, List.not_mem_nil, or_false, not_or] at h
  obtain ⟨hx, hy, htransform, hstyle, hwidth, hheight⟩ := h
  rw [get?_merge_placed (by simp [hstyle, hwidth, hheight]), get?_setGiven htransform, get?_placed hx hy]

/-- The element that a `use` stands for does not refer to anything. -/
theorem href?_merge (name : String) (element use : Attributes) :
    (merge α name element use).2.href? = none := by
  have hdropped (other : String) (hmem : other ∈ droppedAttributes)
      (hplain : other ∉ ["x", "y", "transform", "style", "width", "height"]) :
      (merge α name element use).2.get? other = none := by
    rw [get?_merge hplain, replaced, Table.get?_foldl_erase_of_mem hmem]
  rw [Table.href?, hdropped "href" (by decide) (by decide), hdropped "xlink:href" (by decide) (by decide)]
  rfl

end Use

end SvgPage
