import SvgPage.Proofs.Drawing.Records
import SvgPage.Proofs.Traversal.Layout

namespace SvgPage

open Document

variable {α : Type}

namespace ElementKind

/-- Whether an element that is drawn saves the graphics state. In a text, a span does not. -/
def savesState (inText : Bool) : ElementKind → Bool
  | svg | group | text => true
  | span => !inText
  | _ => false

/-- Of elements inside each other, innermost first, how many save the graphics state: those that are not
    inside an element whose content is kept rather than drawn. -/
def savedStates : List ElementKind → Nat
  | [] => 0
  | kind :: outer =>
    savedStates outer + if !outer.any isHolder && kind.savesState (outer.any isText) then 1 else 0

end ElementKind

/-- Whether elements are drawn in a scope. -/
def Scope.isDrawing (scope : Scope α) : Bool := scope.definitionsDepth == 0 && scope.clip.isNone

namespace NamedElements

def kinds (opened : NamedElements α) : List ElementKind := opened.names.map .ofName

@[simp] theorem kinds_cons (name : String) (element : OpenElement α) (opened : NamedElements α) :
    kinds ((name, element) :: opened) = .ofName name :: opened.kinds := rfl

/-- The elements are open around a scope. Each has given its content the scope that its kind and the scope
    around it call for, which it restores at its end. -/
inductive Nests : NamedElements α → Scope α → Prop
  | nil {scope} (hdrawing : scope.isDrawing = true) (htext : scope.text = none) : Nests [] scope
  | cons {name element opened scope} (h : Nests opened (element.closing.undo scope))
      (hdrawing : scope.isDrawing =
        ((element.closing.undo scope).isDrawing && !(ElementKind.ofName name).isHolder))
      (htext : scope.isDrawing = true → scope.text.isSome =
        ((element.closing.undo scope).text.isSome || (ElementKind.ofName name).isText))
      (hsaves : element.closing.saves = ((element.closing.undo scope).isDrawing &&
        (ElementKind.ofName name).savesState (element.closing.undo scope).text.isSome)) :
      Nests ((name, element) :: opened) scope

namespace Nests

variable {opened : NamedElements α} {scope : Scope α} {name : String} {element : OpenElement α}

theorem pop (h : Nests ((name, element) :: opened) scope) : Nests opened (element.closing.undo scope) := by
  cases h with
  | cons h hdrawing htext hsaves => exact h

/-- Nothing is drawn inside elements whose content is kept. -/
theorem isDrawing_eq (h : Nests opened scope) :
    scope.isDrawing = !opened.kinds.any ElementKind.isHolder := by
  induction h with
  | nil hdrawing htext => exact hdrawing
  | cons h hdrawing htext hsaves ih =>
    rw [hdrawing, ih, kinds_cons, List.any_cons, Bool.not_or, Bool.and_comm]

/-- Where elements are drawn, a text is open inside text elements. -/
theorem text_isSome (h : Nests opened scope) (hdrawing : scope.isDrawing = true) :
    scope.text.isSome = opened.kinds.any ElementKind.isText := by
  induction h with
  | nil _ htext =>
    rw [htext]
    rfl
  | cons h hinner htext hsaves ih =>
    rw [htext hdrawing, kinds_cons, List.any_cons, Bool.or_comm]
    rw [hinner, Bool.and_eq_true] at hdrawing
    rw [ih hdrawing.1]

/-- The elements that save a graphics state are known from their kinds. -/
theorem countP_saves (h : Nests opened scope) :
    opened.elements.countP (fun element => element.closing.saves) =
      ElementKind.savedStates opened.kinds := by
  induction h with
  | nil _ _ => rfl
  | @cons name element opened scope h _ _ hsaves ih =>
    rw [kinds_cons, ElementKind.savedStates, elements, List.map_cons, List.countP_cons]
    change List.countP _ opened.elements + _ = _
    rw [ih, hsaves, h.isDrawing_eq]
    cases hdrawing : opened.kinds.any ElementKind.isHolder with
    | true => rfl
    | false =>
      have htext := h.text_isSome (h.isDrawing_eq.trans (congrArg Bool.not hdrawing))
      rw [htext]

/-- The root saves the graphics state. -/
theorem root (h : Nests [] scope) (hname : ElementKind.ofName name = .svg) (recorded defines : Bool)
    (frame : Frame α) : Nests [(name, ⟨.scope scope.frame, recorded, defines⟩)] { scope with frame } := by
  have hdrawing := h.isDrawing_eq
  refine .cons h ?_ (fun _ => ?_) ?_
  · rw [hname]
    exact (Bool.and_true _).symm
  · rw [hname]
    exact (Bool.or_false _).symm
  · rw [hname]
    exact (congrArg (· && true) hdrawing).symm

/-- A use saves nothing, and its content is drawn as it is. -/
theorem use (h : Nests opened scope) (hname : ElementKind.ofName name = .use) (recorded defines : Bool) :
    Nests ((name, ⟨.nothing, recorded, defines⟩) :: opened) scope := by
  refine .cons h ?_ (fun _ => ?_) ?_
  · rw [hname]
    exact (Bool.and_true _).symm
  · rw [hname]
    exact (Bool.or_false _).symm
  · rw [hname]
    exact (Bool.and_false _).symm

end Nests

end NamedElements

namespace Document

open NamedElements (Nests)

variable {setting : Setting α} {document result : Document α} {kind : ElementKind} {opening : Opening α}

/-- Inside an element whose content is kept nothing is drawn. -/
theorem Opens.isDrawing_eq (h : Opens setting document kind result opening) :
    result.isDrawing = (document.isDrawing && !kind.isHolder) := by
  have hdrawn (hkind : document.isDrawing = true → kind.isHolder = false) :
      document.isDrawing = (document.isDrawing && !kind.isHolder) := by
    cases hdrawing : document.isDrawing with
    | false => rfl
    | true => rw [hkind hdrawing, Bool.not_false, Bool.and_true]
  cases h with
  | inert hblock hkind => exact hdrawn fun hdrawing => (hkind hdrawing).2
  | clipPath generated clipPaths clip hclip =>
    exact (Bool.and_false _).trans (Bool.and_false _).symm
  | clipElement clipPaths matrix hclip =>
    simp only [isDrawing, hclip, Option.isNone_some, Bool.and_false, Bool.false_and]
  | definitions hclip hkind =>
    obtain rfl | rfl := hkind <;> exact (Bool.and_false _).symm
  | text frame hdrawing hkind hdepth hprologue =>
    obtain rfl | ⟨rfl, -⟩ := hkind <;> exact hdrawn fun _ => rfl
  | _ => exact hdrawn fun _ => rfl

theorem Opens.text_isSome (h : Opens setting document kind result opening)
    (hdrawing : result.isDrawing = true) :
    result.text.isSome = (document.text.isSome || kind.isText) := by
  rw [h.isDrawing_eq, Bool.and_eq_true] at hdrawing
  obtain ⟨hdrawing, hholder⟩ := hdrawing
  cases h with
  | inert hblock hkind =>
    obtain ⟨hcontainer, -⟩ := hkind hdrawing
    cases kind with
    | text | span => cases hcontainer
    | _ => exact (Bool.or_false _).symm
  | clipElement clipPaths matrix hclip =>
    simp only [isDrawing, hclip, Option.isNone_some, Bool.and_false, Bool.false_eq_true] at hdrawing
  | definitions hclip hkind =>
    obtain rfl | rfl := hkind <;> cases hholder
  | text frame _ hkind hdepth hprologue =>
    obtain rfl | ⟨rfl, -⟩ := hkind <;> exact (Bool.or_true _).symm
  | span frame _ htext hdepth hblock => exact (Bool.or_true _).symm
  | _ => exact (Bool.or_false _).symm

theorem Opens.saves_eq (h : Opens setting document kind result opening) :
    opening.closing.saves = (document.isDrawing && kind.savesState document.text.isSome) := by
  have hkept (hkind : document.isDrawing = true → kind.savesState document.text.isSome = false) :
      false = (document.isDrawing && kind.savesState document.text.isSome) := by
    cases hdrawing : document.isDrawing with
    | false => rfl
    | true => rw [hkind hdrawing, Bool.and_false]
  cases h with
  | inert hblock hkind =>
    apply hkept
    intro hdrawing
    obtain ⟨hcontainer, -⟩ := hkind hdrawing
    cases kind with
    | svg | group | text | span => cases hcontainer
    | _ => rfl
  | clipElement clipPaths matrix hclip =>
    apply hkept
    intro hdrawing
    simp only [isDrawing, hclip, Option.isNone_some, Bool.and_false, Bool.false_eq_true] at hdrawing
  | definitions hclip hkind =>
    obtain rfl | rfl := hkind <;> exact hkept fun _ => rfl
  | group frame hdrawing hprologue =>
    rw [hdrawing]
    rfl
  | nestedSvg frame hdrawing hprologue =>
    rw [hdrawing]
    rfl
  | text frame hdrawing hkind hdepth hprologue =>
    rw [hdrawing]
    obtain rfl | ⟨rfl, hnone⟩ := hkind
    · rfl
    · rw [hnone]
      rfl
  | span frame hdrawing htext hdepth hblock =>
    rw [hdrawing, htext]
    rfl
  | _ => exact hkept fun _ => rfl

theorem isSome_scope_text (document : Document α) : document.scope.text.isSome = document.text.isSome :=
  Option.isSome_map

/-- An element is open around its content. -/
theorem Opens.nests {name : String} {opened : NamedElements α}
    (h : Opens setting document (.ofName name) result opening) (hopened : opened.Nests document.scope)
    (recorded defines : Bool) :
    NamedElements.Nests ((name, ⟨opening.closing, recorded, defines⟩) :: opened) result.scope := by
  have hundo := h.undo_scope
  refine .cons (hundo.symm ▸ hopened) ?_ (fun hdrawing => ?_) ?_
  · rw [hundo]
    exact h.isDrawing_eq
  · rw [hundo, isSome_scope_text, isSome_scope_text]
    exact h.text_isSome hdrawing
  · rw [hundo, isSome_scope_text]
    exact h.saves_eq

end Document

end SvgPage
