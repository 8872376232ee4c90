import SvgPage.Proofs.Exact
import SvgPage.Proofs.Traversal.Trees

namespace SvgPage

open Document

variable {α : Type} [Scalar α]

namespace Document

/-- The box of an image in its user space. -/
def imageBox (setting : Setting α) (document : Document α) (attributes : Attributes) : Box α :=
  let context := document.shapeContext setting (document.frame.style.resolve attributes setting.options.dpi)
  ⟨context.horizontal attributes "x", context.vertical attributes "y",
    context.horizontal attributes "width", context.vertical attributes "height"⟩

/-- Where a document is drawn that an image refers to. -/
def imagePlacement (setting : Setting α) (document : Document α) (attributes : Attributes) : Placement α :=
  let box := document.imageBox setting attributes
  ⟨(document.frame.ctm.multiply attributes.transform).multiply (.shift box.x box.y), box.size⟩

theorem openImage_embedding {setting inner : Setting α} {document : Document α} {attributes : Attributes}
    {ledger : Ledger α} {markup : String}
    (h : (document.openImage setting attributes ledger).1.2 = .embedding inner markup) :
    inner.placement = document.imagePlacement setting attributes ∧ inner.pageHeight = setting.pageHeight := by
  simp only [openImage, read_transform] at h
  split at h
  · cases h
  · split at h
    · simp only [bind_apply, pure_apply, openEmbedded] at h
      split at h
      · cases h
      · cases hload : setting.options.load (Text.trim (attributes.href?.getD "")) with
        | none =>
          rw [hload] at h
          cases h
        | some bytes =>
          rw [hload] at h
          cases h
          exact ⟨rfl, rfl⟩
    · cases hload : setting.options.load (Text.trim (attributes.href?.getD "")) with
      | none =>
        rw [hload] at h
        cases h
      | some bytes =>
        rw [hload] at h
        cases h

/-- Only images embed documents, and each of them in its own place. -/
theorem openElement_embedding {setting inner : Setting α} {document : Document α} {kind : ElementKind}
    {attributes : Attributes} {ledger : Ledger α} {markup : String}
    (h : (document.openElement setting kind attributes ledger).1.2 = .embedding inner markup) :
    kind = .image ∧ inner.placement = document.imagePlacement setting attributes ∧
      inner.pageHeight = setting.pageHeight := by
  have hopens := openElement_opens setting document attributes ledger kind
  have hkind : kind = .image := by
    dsimp only at hopens
    rw [h] at hopens
    generalize (document.openElement setting kind attributes ledger).1.1 = result at hopens
    cases hopens
    rfl
  subst hkind
  refine ⟨rfl, ?_⟩
  cases hclip : document.clip with
  | some clip =>
    simp only [openElement, hclip] at h
    cases h
  | none =>
    simp only [openElement, hclip] at h
    split at h
    · cases h
    · simp only [openDrawn] at h
      exact openImage_embedding h

theorem imagePlacement_congr {setting : Setting α} {document other : Document α} {attributes : Attributes}
    (hframe : other.frame = document.frame) :
    other.imagePlacement setting attributes = document.imagePlacement setting attributes := by
  simp only [imagePlacement, imageBox, shapeContext, hframe]

theorem beginTag_embedding {setting inner : Setting α} {document : Document α} {name : String}
    {attributes : Attributes} {ledger : Ledger α} {markup : String}
    (h : (document.beginTag setting name attributes ledger).1.2.opening = .embedding inner markup) :
    ElementKind.ofName name = .image ∧ inner.placement = document.imagePlacement setting attributes ∧
      inner.pageHeight = setting.pageHeight := by
  have hrecords := recordStart_records document name attributes (.ofName name)
  obtain ⟨hkind, hplacement, hheight⟩ := openElement_embedding h
  exact ⟨hkind, hplacement.trans (imagePlacement_congr (congrArg Scope.frame hrecords.scope_eq)), hheight⟩

end Document

namespace Stage

variable {setting : Setting α} {levels : Nat} {events : List MarkupEvent} {stage next : Stage α}

/-- An embedded document is drawn in the place of the image that refers to it. -/
theorem embedded_placement [Scalar.Comparable α]
    (hstep : (stage.step setting).resolve (Embedding.nested levels) = some (.ok next)) :
    next.drawing.embedded = stage.drawing.embedded ∨
      ∃ name attributes fetched inner document embedded,
        stage.fetch = some (.startTag name attributes, fetched) ∧ ElementKind.ofName name = .image ∧
        next.drawing.embedded = stage.drawing.embedded ++ [.node inner document embedded] ∧
        inner.placement = stage.document.imagePlacement setting attributes ∧
        inner.pageHeight = setting.pageHeight := by
  obtain hsame | ⟨inner, markup, waiting, element, embed, tree, hembedding, hembed, hdrawn, hembedded⟩ :=
    step_embedded hstep
  · exact .inl hsame
  · obtain ⟨-, document, embedded, rfl⟩ := nested_finishes levels embed hembed inner markup _ tree _ hdrawn
    obtain ⟨name, attributes, fetched, hfetch, hopening, -⟩ := step_embedding_inv hembedding
    obtain ⟨hkind, hplacement, hheight⟩ := beginTag_embedding hopening
    exact .inr ⟨name, attributes, fetched, inner, document, embedded, hfetch, hkind, hembedded,
      hplacement.trans (imagePlacement_congr (fetch_frame hfetch).1), hheight⟩

end Stage

namespace DocumentTree

variable {resources : List (Resource α)}

/-- Finished documents are read from the beginning of a page to the beginning of a page. -/
theorem readAll_outputs {documents : List (Setting α × Document α)}
    (h : ∀ setting document, (setting, document) ∈ documents → document.Rests resources setting) :
    Canvas.initial.readAll resources (outputs documents) = some .initial := by
  induction documents with
  | nil => rfl
  | cons entry rest ih =>
    obtain ⟨setting, document⟩ := entry
    rw [outputs, List.flatMap_cons, Canvas.readAll_append, (h setting document List.mem_cons_self).reads,
      Option.bind_some]
    exact ih fun inner other hmem => h inner other (List.mem_cons_of_mem _ hmem)

/-- Every document of a finished tree begins in the graphics state in which a page begins, which it maps to
    its place. -/
theorem Rests.placed [Scalar.Exact α] {tree : DocumentTree α} (h : tree.Rests resources)
    {first second : List (Setting α × Document α)} {inner : Setting α} {document : Document α}
    (hsplit : tree.documents = first ++ (inner, document) :: second) :
    let placed := [.save] ++ inner.placement.matrix.operators inner.pageHeight
    placed <+: document.output.toList ∧
      ∃ canvas, Canvas.initial.readAll resources (outputs first ++ placed) = some canvas ∧
        canvas.state.matrix = inner.placement.matrix.flip inner.pageHeight := by
  have hentries (setting : Setting α) (other : Document α) (hmem : (setting, other) ∈ first) :
      other.Rests resources setting := by
    refine h setting other ?_
    rw [hsplit]
    exact List.mem_append_left _ hmem
  have hrests : document.Rests resources inner := by
    refine h inner document ?_
    rw [hsplit]
    exact List.mem_append_right _ List.mem_cons_self
  refine ⟨hrests.begins, ?_⟩
  -- The map is read where the graphics state in which the page begins has been saved.
  have hmapped : Adjusts resources (marks inner.pageHeight .initial) inner.pageHeight .initial _ _ :=
    .transform .initial inner.placement.matrix
  obtain ⟨next, hreads, hnext⟩ := hmapped .initial [.initial] (.initial inner.pageHeight)
  refine ⟨⟨next, [.initial]⟩, ?_, ?_⟩
  · rw [Canvas.readAll_append, readAll_outputs hentries]
    exact hreads.readAll
  · rw [hnext.matrix inferInstance]
    exact congrArg (Matrix.flip · inner.pageHeight) (Matrix.identity_multiply _)

end DocumentTree

namespace Stage

variable [Scalar.Exact α] {setting : Setting α} {levels : Nat} {events : List MarkupEvent} {stage : Stage α}

/-- Where the operators of a well-formed document place what it draws, with exact numbers. While the root is
    open, the map in force between two events is that of the frame, upside down. The path of a shape is built
    under the map of the frame and that of the shape. An embedded document has the place of its image; and at
    the end, every document is read where the map in force is none, and begins with that to its place. -/
theorem transforms_of_reached (hdocument : MarkupEvent.IsDocument events)
    (hreached : Reached setting (Embedding.nested levels) events stage) :
    (stage.document.openElements ≠ [] →
      ∃ canvas, stage.canvas? = some canvas ∧
        canvas.state.matrix = stage.document.frame.ctm.flip setting.pageHeight) ∧
    (∀ next, (stage.step setting).resolve (Embedding.nested levels) = some (.ok next) →
      (∀ name attributes fetched kind, stage.fetch = some (.startTag name attributes, fetched) →
        ElementKind.ofName name = .shape kind →
        ∃ operators, next.document.output.toList = stage.document.output.toList ++ operators ∧
          ∀ first operator second, operators = first ++ operator :: second → operator.isConstruction = true →
            ∃ canvas, Canvas.initial.readAll next.resources (stage.document.output.toList ++ first) =
                some canvas ∧
              canvas.state.matrix =
                (stage.document.frame.ctm.multiply attributes.transform).flip setting.pageHeight) ∧
      (next.drawing.embedded = stage.drawing.embedded ∨
        ∃ name attributes fetched inner document embedded,
          stage.fetch = some (.startTag name attributes, fetched) ∧ ElementKind.ofName name = .image ∧
          next.drawing.embedded = stage.drawing.embedded ++ [.node inner document embedded] ∧
          inner.placement = stage.document.imagePlacement setting attributes ∧
          inner.pageHeight = setting.pageHeight)) ∧
    (stage.expansions = [] → stage.rest = [] →
      ∀ first inner document second,
        DocumentTree.documents (.node setting stage.document stage.drawing.embedded) =
          first ++ (inner, document) :: second →
        let placed := [.save] ++ inner.placement.matrix.operators inner.pageHeight
        placed <+: document.output.toList ∧
          ∃ canvas, Canvas.initial.readAll stage.resources (DocumentTree.outputs first ++ placed) =
              some canvas ∧
            canvas.state.matrix = inner.placement.matrix.flip inner.pageHeight) := by
  have hextends : ∀ embed ∈ (Embedding.nested levels : Option (Embedding α)), embed.Extends :=
    nested_extends levels
  obtain ⟨hplaced, canvas, hshown⟩ := hreached.shown hextends hdocument
  refine ⟨fun hinside => ?_, fun next hstep => ⟨?_, embedded_placement hstep⟩, ?_⟩
  · exact ⟨canvas, hshown.canvas_eq, (hshown.layered.layers hinside).realizes.matrix inferInstance⟩
  · intro name attributes fetched kind hfetch hkind
    obtain ⟨operators, houtput, hcanvas⟩ := hshown.exists_canvas hextends hdocument hplaced hstep
    refine ⟨operators, houtput, fun first operator second hsplit hconstruction => ?_⟩
    obtain ⟨before, hbefore, event, fetched', hfetch', -, hholds⟩ := hcanvas first operator second hsplit
    rw [hfetch] at hfetch'
    cases hfetch'
    exact ⟨before, hbefore, hholds hconstruction name attributes kind rfl hkind inferInstance⟩
  · intro hexpansions hrest first inner document second hsplit
    have hrests := hreached.rests hextends (nested_finishes levels) hdocument hexpansions hrest
    exact hrests.placed hsplit

/-- Inside a group that is moved the map in force is that of the group. -/
theorem transforms_in_group :
    let drawing := (Draw.events Exact.setting none [Exact.root, Exact.veil] (.initial Exact.setting {})).2
    ∃ canvas, canvas? ⟨drawing, [], Exact.veiled⟩ = some canvas ∧
      canvas.state.matrix = drawing.document.frame.ctm.flip 100 := by
  have hok : (Draw.events Exact.setting none [Exact.root, Exact.veil]
      (.initial Exact.setting {})).1.isOk = true := by
    decide +kernel
  have hinside : (Draw.events Exact.setting none [Exact.root, Exact.veil]
      (.initial Exact.setting {})).2.document.openElements.length = 2 := by
    decide +kernel
  have hreached : Reached Exact.setting (Embedding.nested 0) ([Exact.root, Exact.veil] ++ Exact.veiled)
      ⟨_, [], Exact.veiled⟩ := .of_events (Draw.eq_ok hok)
  exact (transforms_of_reached Exact.veiled_isDocument hreached).1 (List.ne_nil_of_length_eq_add_one hinside)

end Stage

end SvgPage
