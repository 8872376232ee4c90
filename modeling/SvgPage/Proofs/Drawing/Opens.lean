import SvgPage.Drawing.Opening
import SvgPage.Proofs.Content.Painting

namespace SvgPage

namespace ElementKind

/-- Whether an element that is drawn makes its content a part of itself: it hands down a frame of its
    own. -/
def isContainer : ElementKind → Bool
  | svg | group | text | span => true
  | _ => false

/-- Whether the content of an element is kept rather than drawn. -/
def isHolder : ElementKind → Bool
  | defs | symbol | clipPath => true
  | _ => false

/-- Whether an element is drawn where elements are drawn, unless it is not known. -/
def isDrawn : ElementKind → Bool
  | gradient _ | stop | clipPath | defs | symbol => false
  | _ => true

theorem isDrawn_of_isContainer {kind : ElementKind} (h : kind.isContainer = true) : kind.isDrawn = true := by
  cases kind with
  | svg | group | text | span => rfl
  | _ => cases h

/-- Whether an element lays out text. -/
def isText : ElementKind → Bool
  | text | span => true
  | _ => false

end ElementKind

namespace Document

variable {α : Type}

/-- All that the start tag of an element can do to a document, and what it comes to. -/
inductive Opens (setting : Setting α) (document : Document α) :
    ElementKind → Document α → Opening α → Prop
  /-- The element is painted, or left out. -/
  | inert {kind operators} (hblock : Block operators)
      (hkind : document.isDrawing = true → kind.isContainer = false ∧ kind.isHolder = false) :
      Opens setting document kind (document.write operators) .inert
  | stop (gradients) : Opens setting document .stop { document with gradients } .inert
  | gradient {gradient} (generated gradients id) :
      Opens setting document (.gradient gradient)
        { document with generated, gradients, openGradient := some id } (.element .gradient)
  | clipPath (generated clipPaths clip) (hclip : document.clip = none) :
      Opens setting document .clipPath { document with generated, clipPaths, clip := some clip }
        (.element .clipPath)
  | clipElement {kind} (clipPaths matrix) {clip : ClipCapture α} (hclip : document.clip = some clip) :
      Opens setting document kind { document with clipPaths, clip := some { clip with matrix } }
        (.element (.clipElement clip.matrix))
  | definitions {kind} (hclip : document.clip = none) (hkind : kind = .defs ∨ kind = .symbol) :
      Opens setting document kind { document with definitionsDepth := document.definitionsDepth + 1 }
        (.element .definitions)
  | group {operators} (frame) (hdrawing : document.isDrawing = true) (hprologue : Prologue operators) :
      Opens setting document .group { document.write operators with frame }
        (.element (.scope document.frame))
  | nestedSvg {operators} (frame) (hdrawing : document.isDrawing = true) (hprologue : Prologue operators) :
      Opens setting document .svg
        { document.write operators with frame, svgDepth := document.svgDepth + 1 }
        (.element (.nestedSvg document.frame))
  | text {kind operators} (frame) {text : TextState α} (hdrawing : document.isDrawing = true)
      (hkind : kind = .text ∨ kind = .span ∧ document.text = none)
      (hdepth : text.depth = document.openElements.length) (hprologue : Prologue operators) :
      Opens setting document kind { document.write operators with frame, text := some text }
        (.element (.text document.frame document.text))
  | span {operators} (frame) {outer text : TextState α} (hdrawing : document.isDrawing = true)
      (htext : document.text = some outer) (hdepth : text.depth = outer.depth) (hblock : Block operators) :
      Opens setting document .span { document.write operators with frame, text := some text }
        (.element (.span document.frame))
  /-- A `use` of an element that is complete, and not around the `use`. -/
  | expansion {id name own leadingText rest} (replayed attributes)
      (hcomplete : document.definitions.get? id =
        some (.complete (.startTag name own leadingText :: rest)))
      (hexpanding : document.expanding.contains id = false)
      (hlimit : setting.options.nesting.isReached document.expanding.length = false) :
      Opens setting document .use document (.expansion id (.startTag replayed attributes "" :: rest))
  | embedding {inner} (markup) (hdepth : inner.depth = setting.depth + 1)
      (hoptions : inner.options = setting.options)
      (hlimit : setting.depth < setting.options.nesting.documentLevels) :
      Opens setting document .image document (.embedding inner markup)

/-- What an expansion begins with. -/
theorem Opens.expansion_inv {setting : Setting α} {document result : Document α} {kind : ElementKind}
    {id : String} {tags : List DefinitionEvent}
    (h : Opens setting document kind result (.expansion id tags)) :
    result = document ∧ id ∉ document.expanding ∧
      setting.options.nesting.isReached document.expanding.length = false ∧
      ∃ name own leadingText replayed attributes rest, tags = .startTag replayed attributes "" :: rest ∧
        document.definitions.get? id = some (.complete (.startTag name own leadingText :: rest)) := by
  cases h with
  | expansion replayed attributes hcomplete hexpanding hlimit =>
    rw [List.contains_eq_mem, decide_eq_false_iff_not] at hexpanding
    exact ⟨rfl, hexpanding, hlimit, _, _, _, replayed, attributes, _, rfl, hcomplete⟩

/-- Only uses are expanded. -/
theorem Opens.kind_of_expansion {setting : Setting α} {document result : Document α} {kind : ElementKind}
    {id : String} {tags : List DefinitionEvent}
    (h : Opens setting document kind result (.expansion id tags)) : kind = .use := by
  cases h with
  | expansion replayed attributes hcomplete hexpanding hlimit => rfl

variable [Scalar α]

omit [Scalar α] in
theorem write_nil (document : Document α) : document.write [] = document := by
  simp only [write, Array.appendList_nil]

/-- Outside of definitions and clip paths, elements are drawn. -/
theorem openElement_of_isDrawn {setting : Setting α} {document : Document α} {kind : ElementKind}
    (hdrawing : document.isDrawing = true) (hkind : kind.isDrawn = true) (attributes : Attributes) :
    document.openElement setting kind attributes = document.openDrawn setting kind attributes := by
  rw [isDrawing, Bool.and_eq_true, beq_iff_eq, Option.isNone_iff_eq_none] at hdrawing
  obtain ⟨hdefinitions, hclip⟩ := hdrawing
  cases kind with
  | gradient | stop | clipPath | defs | symbol => cases hkind
  | _ => simp only [openElement, hclip, hdefinitions, Nat.lt_irrefl, if_false]

theorem flushText_eq (setting : Setting α) {document : Document α} {state : TextState α}
    (htext : document.text = some state) (atEnd : Bool) (ledger : Ledger α) :
    ∃ operators next, Block operators ∧ next.depth = state.depth ∧
      (document.flushText setting atEnd ledger).1 = { document.write operators with text := some next } := by
  simp only [flushText, htext]
  split
  · refine ⟨[], { state with pending := "" }, .nil, rfl, ?_⟩
    rw [write_nil]
    rfl
  · simp only [bind_apply, pure_apply]
    refine ⟨_, _, block_paintRun .., ?_, rfl⟩
    rfl

theorem addStop_eq (setting : Setting α) (document : Document α) (attributes : Attributes) :
    ∃ gradients, document.addStop setting attributes = { document with gradients } := by
  obtain hgradient | ⟨id, hgradient⟩ := Option.eq_none_or_eq_some document.openGradient
  · have hsame : document.addStop setting attributes = document := by
      simp only [addStop, hgradient]
    exact ⟨document.gradients, hsame⟩
  · rw [addStop, hgradient]
    exact ⟨_, rfl⟩

section Handlers

variable (setting : Setting α) (document : Document α) (attributes : Attributes) (ledger : Ledger α)

theorem openGroup_opens (hdrawing : document.isDrawing = true) :
    let result := (document.openGroup setting attributes ledger).1
    Opens setting document .group result.1 (.element result.2) := by
  simp only [openGroup, bind_apply, pure_apply]
  exact .group _ hdrawing (prologue_scope (Matrix.block_operators ..) (clipping_clipRegion ..)
    (block_graphicsState ..))

theorem openNestedSvg_opens (hdrawing : document.isDrawing = true) :
    let result := (document.openNestedSvg setting attributes ledger).1
    Opens setting document .svg result.1 (.element result.2) := by
  have hviewport (clips : Bool) (box : Box α) :
      Clipping (if clips then box.clipOperators setting.pageHeight else []) := by
    cases clips with
    | true => exact Box.clipping_clipOperators ..
    | false => exact Block.nil.clipping
  simp only [openNestedSvg, bind_apply, pure_apply]
  apply Opens.nestedSvg _ hdrawing
  simp only [List.cons_append, List.nil_append]
  apply Clipping.prologue
  exact ((((Matrix.block_operators ..).clipping.append (hviewport _ _)).append
    (clipping_clipRegion ..)).append (block_graphicsState ..).clipping).append
      (Matrix.block_operators ..).clipping

theorem openText_opens {kind : ElementKind} (hdrawing : document.isDrawing = true)
    (hkind : kind = .text ∨ kind = .span ∧ document.text = none) :
    let result := (document.openText setting attributes ledger).1
    Opens setting document kind result.1 (.element result.2) := by
  simp only [openText, bind_apply, pure_apply]
  refine .text _ hdrawing hkind ?_ ?_
  · rfl
  · simp only [List.cons_append, List.nil_append]
    exact ((Matrix.block_operators ..).clipping.append (clipping_clipRegion ..)).prologue

theorem openSpan_opens (hdrawing : document.isDrawing = true) :
    let result := (document.openSpan setting attributes ledger).1
    Opens setting document .span result.1 (.element result.2) := by
  cases htext : document.text with
  | none =>
    rw [openSpan, htext]
    exact openText_opens setting document attributes ledger hdrawing (.inr ⟨rfl, htext⟩)
  | some outer =>
    obtain ⟨operators, next, hblock, hdepth, hflushed⟩ := flushText_eq setting htext false ledger
    simp only [openSpan, htext, Option.isNone_some, Bool.false_eq_true, if_false, bind_apply, pure_apply,
      hflushed]
    exact .span _ hdrawing htext hdepth hblock

omit [Scalar α] in
/-- Nothing is written for what is left out. -/
theorem opens_inert {kind : ElementKind}
    (hkind : document.isDrawing = true → kind.isContainer = false ∧ kind.isHolder = false) :
    Opens setting document kind document .inert := by
  have h : Opens setting document kind (document.write []) .inert := .inert .nil hkind
  rwa [write_nil] at h

theorem openUse_opens :
    Opens setting document .use document (document.openUse setting attributes ledger).1 := by
  have hinert : Opens setting document .use document .inert :=
    opens_inert setting document fun _ => ⟨rfl, rfl⟩
  cases hfound : document.findUse? attributes with
  | none =>
    rw [openUse, hfound]
    exact hinert
  | some found =>
    obtain ⟨id, definition⟩ := found
    obtain ⟨linked, -, hlinked⟩ := Option.bind_eq_some_iff.1 hfound
    obtain ⟨definition', hdefinition, hpair⟩ := Option.bind_eq_some_iff.1 hlinked
    cases hpair
    cases definition with
    | pending =>
      rw [openUse, hfound]
      exact hinert
    | complete tags =>
      simp only [openUse, hfound]
      split
      · exact hinert
      next hexpanding =>
        split
        · exact hinert
        next hlimit =>
          cases tags with
          | nil => exact hinert
          | cons first rest =>
            cases first with
            | endTag name leadingText => exact hinert
            | startTag name own leadingText =>
              exact .expansion _ _ hdefinition (Bool.eq_false_iff.2 hexpanding) (Bool.eq_false_iff.2 hlimit)

theorem openImage_opens :
    let result := (document.openImage setting attributes ledger).1
    Opens setting document .image result.1 result.2 := by
  have hinert : Opens setting document .image document .inert :=
    opens_inert setting document fun _ => ⟨rfl, rfl⟩
  have hpixels (style : Style α) (transform : Matrix α) (box : Box α) (bytes : List UInt8) :
      Opens setting document .image (document.drawPixels setting style transform box bytes ledger).1
        .inert := by
    obtain ⟨operators, hblock, hwritten⟩ := document.drawPixels_eq setting style transform box bytes ledger
    rw [hwritten]
    exact .inert hblock fun _ => ⟨rfl, rfl⟩
  simp only [openImage]
  split
  · exact hinert
  · split
    · simp only [bind_apply, pure_apply, openEmbedded]
      split
      · exact hinert
      next hlimit =>
        cases setting.options.load _ with
        | none => exact hinert
        | some bytes => exact .embedding _ rfl rfl (Nat.lt_of_not_le hlimit)
    · cases setting.options.load _ with
      | none => exact hinert
      | some bytes => exact hpixels ..

theorem drawShape_opens (shape : ShapeKind) :
    Opens setting document (.shape shape) (document.drawShape setting shape attributes ledger).1 .inert := by
  obtain ⟨operators, hblock, hwritten⟩ := document.drawShape_eq setting shape attributes ledger
  rw [hwritten]
  exact .inert hblock fun _ => ⟨rfl, rfl⟩

theorem openDrawn_opens {kind : ElementKind} (hdrawing : document.isDrawing = true)
    (hkind : kind.isHolder = false) :
    let result := (document.openDrawn setting kind attributes ledger).1
    Opens setting document kind result.1 result.2 := by
  cases kind with
  | svg => exact openNestedSvg_opens setting document attributes ledger hdrawing
  | group => exact openGroup_opens setting document attributes ledger hdrawing
  | text => exact openText_opens setting document attributes ledger hdrawing (.inl rfl)
  | span => exact openSpan_opens setting document attributes ledger hdrawing
  | use =>
    simp only [openDrawn, bind_apply, pure_apply]
    exact openUse_opens setting document attributes ledger
  | shape shape =>
    simp only [openDrawn, bind_apply, pure_apply]
    exact drawShape_opens setting document attributes ledger shape
  | image =>
    simp only [openDrawn]
    exact openImage_opens setting document attributes ledger
  | defs | symbol | clipPath => cases hkind
  | gradient gradient | stop | unknown name => exact opens_inert setting document fun _ => ⟨rfl, rfl⟩

theorem openClipElement_opens {clip : ClipCapture α} (hclip : document.clip = some clip) (kind : ElementKind) :
    let result := document.openClipElement setting clip kind attributes
    Opens setting document kind result.1 (.element result.2) := by
  have hkept : ∃ clipPaths matrix, document.openClipElement setting clip kind attributes =
      ({ document with clipPaths, clip := some { clip with matrix } }, .clipElement clip.matrix) := by
    cases kind with
    | shape shape =>
      simp only [openClipElement]
      cases (document.shapeContext setting _).path? attributes shape with
      | some path => exact ⟨_, _, rfl⟩
      | none => exact ⟨document.clipPaths, _, rfl⟩
    | _ => exact ⟨document.clipPaths, _, rfl⟩
  obtain ⟨clipPaths, matrix, hresult⟩ := hkept
  rw [hresult]
  exact .clipElement clipPaths matrix hclip

/-- Whatever the kind of an element and the mode of the document, its start tag does one of these things. -/
theorem openElement_opens (kind : ElementKind) :
    let result := (document.openElement setting kind attributes ledger).1
    Opens setting document kind result.1 result.2 := by
  cases hclip : document.clip with
  | some clip =>
    have hinert : Opens setting document kind document .inert := by
      apply opens_inert setting document
      intro hdrawing
      rw [isDrawing, hclip, Option.isNone_some, Bool.and_false] at hdrawing
      cases hdrawing
    simp only [openElement, hclip]
    cases kind with
    | gradient _ | stop | clipPath => exact hinert
    | use => exact openUse_opens setting document attributes ledger
    | _ => exact openClipElement_opens setting document attributes hclip _
  | none =>
    simp only [openElement, hclip]
    have hdrawn (hkind : kind.isHolder = false) :
        let result := (if 0 < document.definitionsDepth then pure (document, .inert)
          else document.openDrawn setting kind attributes : StateM _ _) ledger
        Opens setting document kind result.1.1 result.1.2 := by
      split
      next hdefinitions =>
        apply opens_inert setting document
        intro hdrawing
        simp only [isDrawing, Bool.and_eq_true, beq_iff_eq] at hdrawing
        omega
      next hdefinitions =>
        refine openDrawn_opens setting document attributes ledger ?_ hkind
        simp only [isDrawing, hclip, Option.isNone_none, Bool.and_true, beq_iff_eq]
        omega
    have hdefinitions (kind : ElementKind) (hkind : kind = .defs ∨ kind = .symbol) :
        Opens setting document kind { document with definitionsDepth := document.definitionsDepth + 1 }
          (.element .definitions) := .definitions hclip hkind
    cases kind with
    | gradient gradient => exact .gradient _ _ _
    | stop =>
      obtain ⟨gradients, hadded⟩ := document.addStop_eq setting attributes
      rw [hadded]
      exact .stop gradients
    | clipPath => exact .clipPath _ _ _ hclip
    | defs => simpa only [hclip, pure_apply] using hdefinitions .defs (.inl rfl)
    | symbol => simpa only [hclip, pure_apply] using hdefinitions .symbol (.inr rfl)
    | _ => exact hdrawn rfl

end Handlers

end Document

end SvgPage
