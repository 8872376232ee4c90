import SvgPage.Proofs.Css.Declarations
import SvgPage.Proofs.Element.Reference
import SvgPage.Proofs.Style.Cascade

namespace SvgPage

namespace Css

variable {style : String}

/-- Declarations behind a semicolon are set over the map of what stands before it, if that leaves nothing open. -/
theorem parseDeclarations_join (h : EndsOutside style) (further : String) :
    parseDeclarations (style ++ ";" ++ further) =
      (parseDeclarations style).setAll (parseDeclarations further).entries := by
  rw [parseDeclarations_eq, declarations_join h, Table.setAll_append, parseDeclarations_eq, parseDeclarations_eq,
    Table.setAll_entries_setAll]

theorem get?_parseDeclarations_join (h : EndsOutside style) (further property : String) :
    (parseDeclarations (style ++ ";" ++ further)).get? property =
      ((parseDeclarations further).get? property).or ((parseDeclarations style).get? property) := by
  rw [parseDeclarations_join h, Table.get?_setAll, parseDeclarations_eq further, Table.setAll_entries_setAll]

end Css

namespace Use

/-- Two parts have a separator between them if both are there and not empty. -/
theorem joinGiven_pair (separator : String) (first second : Option String) :
    joinGiven separator [first, second] =
      if first.getD "" = "" then second.getD ""
      else if second.getD "" = "" then first.getD ""
      else first.getD "" ++ separator ++ second.getD "" := by
  have hgiven (part : Option String) :
      part.filter (fun text => !text.isEmpty) = if part.getD "" = "" then none else some (part.getD "") := by
    cases part with
    | none => rfl
    | some text => by_cases hempty : text = "" <;> simp [Option.filter, hempty]
  rw [joinGiven, List.filterMap_cons, List.filterMap_cons, List.filterMap_nil, hgiven first, hgiven second]
  by_cases hfirst : first.getD "" = ""
  · by_cases hsecond : second.getD "" = ""
    · simp only [hfirst, hsecond, if_true, String.intercalate_nil]
    · simp only [hfirst, hsecond, if_true, if_false, String.intercalate_singleton]
  · by_cases hsecond : second.getD "" = ""
    · simp only [hfirst, hsecond, if_true, if_false, String.intercalate_singleton]
    · simp only [hfirst, hsecond, if_false, String.intercalate_cons_cons, String.intercalate_singleton]

theorem getD_eq_empty_of_joinGiven {separator : String} {first second : Option String}
    (h : joinGiven separator [first, second] = "") : first.getD "" = "" := by
  rw [joinGiven_pair] at h
  split at h
  next hfirst => exact hfirst
  next =>
    split at h
    · exact h
    · rw [String.append_assoc, String.append_eq_empty_iff] at h
      exact h.1

theorem get?_setGiven_self (name value : String) (merged : Attributes) :
    (setGiven name value merged).get? name = if value.isEmpty then merged.get? name else some value := by
  rw [setGiven]
  split
  · rfl
  · rw [Table.get?_set, if_pos rfl]

variable {α : Type} [Scalar α]

/-- The inline style of the element a `use` stands for. -/
theorem style_merge (name : String) (element use : Attributes) :
    ((merge α name element use).2.get? "style").getD "" =
      joinGiven ";" [element.get? "style", use.get? "style"] := by
  have hplaced (kind : ElementKind) (transform : String) :
      (setGiven "transform" transform (placed α kind element use)).get? "style" = element.get? "style" := by
    rw [get?_setGiven (by decide), get?_placed (by decide) (by decide), get?_replaced_own (by decide) (by decide)]
  have hstyled (kind : ElementKind) (transform : String) :
      ((setGiven "style" (joinGiven ";" [element.get? "style", use.get? "style"])
        (setGiven "transform" transform (placed α kind element use))).get? "style").getD "" =
      joinGiven ";" [element.get? "style", use.get? "style"] := by
    rw [get?_setGiven_self, hplaced]
    split
    next hempty =>
      have hjoined := String.isEmpty_iff.1 hempty
      rw [hjoined]
      exact getD_eq_empty_of_joinGiven hjoined
    next => rfl
  simp only [merge, List.foldl_cons, List.foldl_nil]
  generalize ElementKind.ofName (if localName name == "symbol" then "svg" else name) = kind
  have hjoined := hstyled kind (joinedTransform α kind element use)
  have hheight : "style" ≠ "height" := by decide
  have hwidth : "style" ≠ "width" := by decide
  by_cases hkind : (kind == .svg) = true
  · rw [if_pos hkind]
    exact (congrArg (Option.getD · "") ((get?_sized hheight use _).trans (get?_sized hwidth use _))).trans hjoined
  · rw [if_neg hkind]
    exact hjoined

variable (α) in
/-- For each property the element a `use` stands for has the declaration of the `use`, and otherwise that of the element
    itself, if the inline style of the element leaves nothing open. -/
theorem inline?_merge {element : Attributes} (h : Css.EndsOutside ((element.get? "style").getD ""))
    (name property : String) (use : Attributes) :
    (merge α name element use).2.inline? property = (use.inline? property).or (element.inline? property) := by
  simp only [Table.inline?, style_merge, joinGiven_pair]
  have hempty : (Css.parseDeclarations "").get? property = none := rfl
  split
  next hfirst => rw [hfirst, hempty, Option.or_none]
  next =>
    split
    next hsecond => rw [hsecond, hempty, Option.none_or]
    next => exact Css.get?_parseDeclarations_join h _ property

variable (α) in
/-- A style that leaves nothing open can be gone on with: what is declared behind it is set over what it declares. So the
    declarations of a `use` come before those of the element it refers to. -/
theorem overrides_of_endsOutside {style : String} (h : Css.EndsOutside style) :
    (∀ further, Css.parseDeclarations (style ++ ";" ++ further) =
        (Css.parseDeclarations style).setAll (Css.parseDeclarations further).entries) ∧
      ∀ (name : String) (element use : Attributes), (element.get? "style").getD "" = style →
        ∀ property, (merge α name element use).2.inline? property =
          (use.inline? property).or (element.inline? property) := by
  refine ⟨Css.parseDeclarations_join h, ?_⟩
  rintro name element use rfl property
  exact inline?_merge α h name property use

/-- A semicolon between quotes, and an unmatched parenthesis that closes nothing. -/
theorem overrides_stroke :
    let style := "fill: url(';'); stroke: red)"
    let further := "STROKE: blue !important; opacity: 0.5;"
    let merged := (merge Rat "rect" ⟨[("style", style)]⟩ ⟨[("href", "#r"), ("style", further)]⟩).2
    Css.EndsOutside style ∧
      Css.parseDeclarations (style ++ ";" ++ further) =
        ⟨[("fill", "url(';')"), ("stroke", "blue"), ("opacity", "0.5")]⟩ ∧
      merged.inline? "stroke" = some "blue" ∧ merged.inline? "fill" = some "url(';')" := by
  have hends : Css.EndsOutside "fill: url(';'); stroke: red)" := by decide +kernel
  intro style further merged
  obtain ⟨hjoin, hmerge⟩ := overrides_of_endsOutside Rat hends
  refine ⟨hends, (hjoin further).trans (by decide +kernel), ?_, ?_⟩
  · exact (hmerge "rect" _ _ rfl "stroke").trans (by decide +kernel)
  · exact (hmerge "rect" _ _ rfl "fill").trans (by decide +kernel)

end Use

end SvgPage
