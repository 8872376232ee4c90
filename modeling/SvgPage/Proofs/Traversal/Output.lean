import SvgPage.Proofs.Content.Page
import SvgPage.Proofs.Drawing.Records
import SvgPage.Proofs.Traversal.Reached

namespace SvgPage

open Document
open ContentState (between InForce)

variable {α : Type}

/-- Whether the end tag of an element restores a graphics state. -/
def OpenElement.saves (element : OpenElement α) : Bool := element.closing.saves

/-- The attributes of the root, which has the first start tag. -/
def MarkupEvent.rootAttributes? : List MarkupEvent → Option Attributes
  | [] => none
  | .startTag _ attributes :: _ => some attributes
  | _ :: rest => rootAttributes? rest

variable [Scalar α] {setting : Setting α} {events : List MarkupEvent} {document result : Document α}

/-- The box that the root clips to, if the drawing has an area. -/
def rootBox? (setting : Setting α) (events : List MarkupEvent) : Option (Box α) := do
  let attributes ← MarkupEvent.rootAttributes? events
  let size ← (rootSize setting (Document.initial setting).frame attributes).toOption
  return drawingBox setting size

/-- What has been written of a document: nothing before its root; from then on a saved graphics state with
    content clipped to the box of the root, in which the graphics states of the open elements inside the
    root are saved; and at the end of the root the restored graphics state. -/
inductive Document.Written (setting : Setting α) (events : List MarkupEvent) (document : Document α) : Prop
  | unopened (hroot : document.rootSeen = false) (helements : document.openElements = [])
      (hframe : document.frame = (Document.initial setting).frame) (houtput : document.output.toList = [])
  | opened {box content clips saved above root} (hroot : document.rootSeen = true)
      (helements : document.openElements = above ++ [root]) (hsaves : root.saves = true)
      (hbox : rootBox? setting events = some box)
      (houtput : document.output.toList = .save :: content)
      (hcontent : BoxedContent box content clips saved)
      (hsaved : saved.length = above.countP OpenElement.saves)
  | closed {box content clips} (hroot : document.rootSeen = true) (helements : document.openElements = [])
      (hbox : rootBox? setting events = some box)
      (houtput : document.output.toList = .save :: (content ++ [.restore]))
      (hcontent : BoxedContent box content clips [])

/-- Content in which graphics states are saved and restored as the open elements of a document call for. All
    of it can be read, so that every path is ended where it is built, and text objects are not nested; the
    graphics state of the root is saved from the first operator on, until the last one restores it; and
    whatever is painted is painted within the box of the root. -/
structure Balanced (setting : Setting α) (events : List MarkupEvent) (elements saves : Nat)
    (output : List (Operator α)) : Prop where
  readable : ∃ clips saved, (between [] []).readAll output = some (between clips saved)
  countP : output.countP Operator.isSave = output.countP Operator.isRestore + saves
  saved : ∀ first second, output = first ++ second → first ≠ [] → elements ≠ 0 ∨ second ≠ [] →
    first.countP Operator.isRestore < first.countP Operator.isSave
  boxed : ∀ first operator second, output = first ++ operator :: second → operator.isPainting = true →
    ∃ box state, rootBox? setting events = some box ∧ (between [] []).readAll first = some state ∧
      [.rect box] ∈ state.clips

namespace Document.Written

/-- Elements and operators are all that counts. -/
theorem of_eq (h : Written setting events document) (hroot : result.rootSeen = document.rootSeen)
    (helements : result.openElements = document.openElements) (hframe : result.frame = document.frame)
    (houtput : result.output = document.output) : Written setting events result := by
  cases h with
  | unopened hseen hopen hinitial hwritten =>
    exact .unopened (hroot.trans hseen) (helements.trans hopen) (hframe.trans hinitial) (houtput ▸ hwritten)
  | opened hseen hopen hsaves hbox hwritten hcontent hsaved =>
    exact .opened (hroot.trans hseen) (helements.trans hopen) hsaves hbox (houtput ▸ hwritten) hcontent hsaved
  | closed hseen hopen hbox hwritten hcontent =>
    exact .closed (hroot.trans hseen) (helements.trans hopen) hbox (houtput ▸ hwritten) hcontent

theorem addText (h : Written setting events document) (text : String) :
    Written setting events (document.addText text) :=
  h.of_eq (congrArg Standing.rootSeen (addText_standing document text))
    (congrArg Standing.openElements (addText_standing document text))
    (congrArg Scope.frame (addText_scope document text)) (addText_output document text)

/-- An element is opened inside the root. -/
theorem push (h : Written setting events document) (hinside : document.openElements ≠ [])
    {element : OpenElement α} {operators : List (Operator α)}
    (hroot : result.rootSeen = document.rootSeen)
    (helements : result.openElements = element :: document.openElements)
    (houtput : result.output.toList = document.output.toList ++ operators)
    (hoperators : if element.saves then Prologue operators else Block operators) :
    Written setting events result := by
  cases h with
  | unopened hseen hopen hinitial hwritten => exact absurd hopen hinside
  | closed hseen hopen hbox hwritten hcontent => exact absurd hopen hinside
  | @opened box content clips saved above root hseen hopen hsaves hbox hwritten hcontent hsaved =>
    rw [hopen, ← List.cons_append] at helements
    rw [hwritten, List.cons_append] at houtput
    split at hoperators
    next helement =>
      obtain ⟨more, hmore⟩ := hcontent.append_prologue hoperators
      have hcount : (clips :: saved).length = (element :: above).countP OpenElement.saves := by
        rw [List.countP_cons_of_pos helement, List.length_cons, hsaved]
      exact .opened (hroot.trans hseen) helements hsaves hbox houtput hmore hcount
    next helement =>
      have hcount : saved.length = (element :: above).countP OpenElement.saves := by
        rw [List.countP_cons_of_neg helement, hsaved]
      exact .opened (hroot.trans hseen) helements hsaves hbox houtput (hcontent.append_block hoperators)
        hcount

/-- The innermost element is closed. -/
theorem pop (h : Written setting events document) {element : OpenElement α} {operators : List (Operator α)}
    (hroot : result.rootSeen = document.rootSeen)
    (helements : document.openElements = element :: result.openElements) (hblock : Block operators)
    (houtput : result.output.toList =
      document.output.toList ++ (operators ++ if element.saves then [.restore] else [])) :
    Written setting events result := by
  cases h with
  | unopened hseen hopen hinitial hwritten => simp only [hopen, List.nil_eq, reduceCtorEq] at helements
  | closed hseen hopen hbox hwritten hcontent => simp only [hopen, List.nil_eq, reduceCtorEq] at helements
  | @opened box content clips saved above root hseen hopen hsaves hbox hwritten hcontent hsaved =>
    rw [hopen] at helements
    rw [hwritten, List.cons_append] at houtput
    cases above with
    | nil =>
      obtain ⟨rfl, hnone⟩ := List.cons.inj helements
      rw [if_pos hsaves, ← List.append_assoc] at houtput
      rw [List.countP_nil, List.length_eq_zero_iff] at hsaved
      subst hsaved
      exact .closed (hroot.trans hseen) hnone.symm hbox houtput (hcontent.append_block hblock)
    | cons innermost above =>
      obtain ⟨rfl, hothers⟩ := List.cons.inj helements
      by_cases helement : innermost.saves = true
      · rw [List.countP_cons_of_pos helement] at hsaved
        obtain ⟨outer, saved, rfl⟩ := List.exists_cons_of_length_eq_add_one hsaved
        rw [if_pos helement] at houtput
        exact .opened (hroot.trans hseen) hothers.symm hsaves hbox houtput (hcontent.append_restore hblock)
          (Nat.succ.inj hsaved)
      · rw [List.countP_cons_of_neg helement] at hsaved
        rw [if_neg helement, List.append_nil] at houtput
        exact .opened (hroot.trans hseen) hothers.symm hsaves hbox houtput (hcontent.append_block hblock)
          hsaved

/-- An event is handled. The first start tag is that of the root, and all others are inside it. -/
theorem handles {event : MarkupEvent} {begun : Option Expansion} (h : Written setting events document)
    (hhandles : Handles setting document event result begun)
    (hfirst : ∀ name attributes, event = .startTag name attributes → document.rootSeen = false →
      MarkupEvent.rootAttributes? events = some attributes)
    (hinside : ∀ name attributes, event = .startTag name attributes → document.rootSeen = true →
      document.openElements ≠ []) :
    Written setting events result := by
  cases hhandles with
  | text text => exact h.addText text
  | endTag helements hends =>
    obtain ⟨operators, hblock, houtput⟩ := hends.output_eq
    refine h.pop (congrArg Standing.rootSeen hends.standing_eq) ?_ hblock houtput
    rw [helements]
    exact congrArg (_ :: Standing.openElements ·) hends.standing_eq.symm
  | @root name attributes size rest frame hroot hname hsize hrest =>
    cases h with
    | opened hseen hopen hsaves hbox hwritten hcontent hsaved => simp only [hroot, Bool.false_eq_true] at hseen
    | closed hseen hopen hbox hwritten hcontent => simp only [hroot, Bool.false_eq_true] at hseen
    | unopened hseen hopen hinitial hwritten =>
      have hbox : rootBox? setting events = some (drawingBox setting size) := by
        rw [hinitial] at hsize
        rw [rootBox?, hfirst name attributes rfl hroot, Option.bind_eq_bind, Option.bind_some, hsize]
        rfl
      have hcontent : BoxedContent (drawingBox setting size)
          (setting.placement.matrix.operators setting.pageHeight ++
            [.rect (drawingBox setting size), .paint .clip] ++ rest)
          [[.rect (drawingBox setting size)]] [] :=
        ⟨_, _, rfl, Matrix.operators_cases .., hrest.readAll _ _⟩
      refine .opened rfl (?_ : _ = [] ++ [⟨.scope document.frame, false, false⟩]) rfl hbox ?_ hcontent rfl
      · exact congrArg (_ :: ·) hopen
      · apply (write_output document _).trans
        rw [hwritten]
        rfl
  | @element name attributes recording _ _ opened opening hroot hrecords hopens hopening =>
    have hstanding := hopens.standing_eq.trans hrecords.standing_eq
    obtain ⟨operators, houtput, hoperators⟩ := hopens.output_eq
    rw [hrecords.output_eq] at houtput
    exact h.push (hinside name attributes rfl hroot) (congrArg Standing.rootSeen hstanding)
      (congrArg (_ :: Standing.openElements ·) hstanding) houtput hoperators
  | use hroot hrecords hopens =>
    exact h.of_eq (congrArg Standing.rootSeen hrecords.standing_eq)
      (congrArg Standing.openElements hrecords.standing_eq) (congrArg Scope.frame hrecords.scope_eq)
      hrecords.output_eq

/-- What has been written is balanced. -/
theorem balanced (h : Written setting events document) :
    Balanced setting events document.openElements.length (document.openElements.countP OpenElement.saves)
      document.output.toList := by
  cases h with
  | unopened hroot helements hframe houtput =>
    rw [houtput, helements]
    refine ⟨⟨[], [], rfl⟩, rfl, fun first second hsplit hfirst => ?_, fun first operator second hsplit => ?_⟩
    · exact absurd (List.append_eq_nil_iff.1 hsplit.symm).1 hfirst
    · exact absurd hsplit.symm (List.append_ne_nil_of_right_ne_nil _ (List.cons_ne_nil _ _))
  | @opened box content clips saved above root hroot helements hsaves hbox houtput hcontent hsaved =>
    rw [houtput, helements]
    refine ⟨⟨_, _, hcontent.readAll_saved⟩, ?_, fun first second hsplit hfirst _ =>
      hcontent.countP_isRestore_lt hsplit hfirst, fun first operator second hsplit hpainting => ?_⟩
    · rw [hcontent.countP_saved, List.countP_append, hsaved, List.countP_singleton, if_pos hsaves]
    · obtain ⟨state, hstate, hclips⟩ := hcontent.clips_of_isPainting hsplit hpainting
      exact ⟨box, state, hbox, hstate, hclips⟩
  | @closed box content clips hroot helements hbox houtput hcontent =>
    rw [houtput, helements, ← List.cons_append]
    refine ⟨⟨[], [], ?_⟩, ?_, fun first second hsplit hfirst hsecond => ?_,
      fun first operator second hsplit hpainting => ?_⟩
    · rw [ContentState.readAll_append_of_eq hcontent.readAll_saved]
      rfl
    · rw [List.countP_append, List.countP_append, hcontent.countP_saved]
      rfl
    · obtain ⟨init, last, rfl⟩ := (List.eq_nil_or_concat' second).resolve_left
        (hsecond.resolve_left fun hnone => hnone rfl)
      rw [← List.append_assoc] at hsplit
      exact hcontent.countP_isRestore_lt (List.append_inj_left' hsplit rfl) hfirst
    · obtain hnone | ⟨init, last, rfl⟩ := List.eq_nil_or_concat' second
      · rw [hnone] at hsplit
        obtain ⟨-, hlast⟩ := List.append_inj' hsplit rfl
        obtain ⟨rfl, -⟩ := List.cons.inj hlast
        cases hpainting
      · rw [← List.cons_append, ← List.append_assoc] at hsplit
        obtain ⟨state, hstate, hclips⟩ :=
          hcontent.clips_of_isPainting (List.append_inj_left' hsplit rfl) hpainting
        exact ⟨box, state, hbox, hstate, hclips⟩

end Document.Written

end SvgPage
