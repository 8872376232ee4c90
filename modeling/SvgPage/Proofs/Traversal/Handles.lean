import SvgPage.Proofs.Drawing.Records
import SvgPage.Proofs.Traversal.Action
import SvgPage.Proofs.Traversal.Stage

namespace SvgPage

namespace Document

variable {α : Type}

variable [Scalar α]

/-- What the start tag of the root does: it clips to the box of the drawing, between two blocks. -/
theorem openRoot_eq {setting : Setting α} {document opened : Document α} {attributes : Attributes}
    {closing : Closing α} {ledger ledger' : Ledger α}
    (h : (document.openRoot setting attributes).run ledger = (.ok (opened, closing), ledger')) :
    ∃ size rest, rootSize setting document.frame attributes = .ok size ∧ Block rest ∧
      closing = .scope document.frame ∧
      opened = { document.write ([.save] ++ setting.placement.matrix.operators setting.pageHeight ++
        [.rect (drawingBox setting size), .paint .clip] ++ rest) with frame := opened.frame } := by
  cases hsize : rootSize setting document.frame attributes with
  | error failure =>
    simp only [openRoot, hsize] at h
    cases h
  | ok size =>
    let style := document.frame.style.resolve attributes setting.options.dpi
    let intrinsic := intrinsicSize attributes (style.lengthContext setting.options.dpi)
    let fit := RootFit.ofAttributes setting attributes intrinsic size
    let opacity := style.number .opacity
    have hrest := (fit.matrix.block_operators setting.pageHeight).append
      (block_graphicsState document.frame style opacity opacity
        (Ledger.notify (.drawing (size.width, size.height) setting.depth) ledger).2)
    simp only [openRoot, hsize] at h
    obtain ⟨hresult, -⟩ := Prod.mk.inj h
    obtain ⟨hopened, hclosing⟩ := Prod.mk.inj (Except.ok.inj hresult)
    refine ⟨size, _, rfl, hrest, hclosing.symm, ?_⟩
    rw [← hopened, ← List.append_assoc]
    rfl

theorem beginTag_eq (setting : Setting α) (document : Document α) (name : String) (attributes : Attributes)
    (ledger : Ledger α) :
    let result := (document.beginTag setting name attributes ledger).1
    ∃ recording, Records document name attributes recording result.2.recorded result.2.defines ∧
      Opens setting recording (.ofName name) result.1 result.2.opening :=
  ⟨_, recordStart_records document name attributes (.ofName name),
    openElement_opens setting _ attributes ledger (.ofName name)⟩

/-- All that handling one event can do to a document: what it becomes, and the use, if there is one, that
    is expanded from then on. -/
inductive Handles (setting : Setting α) (document : Document α) :
    MarkupEvent → Document α → Option Expansion → Prop
  | text (text) : Handles setting document (.text text) (document.addText text) none
  | endTag {name element outer result} (helements : document.openElements = element :: outer)
      (hends : Ends { document with openElements := outer } element name result) :
      Handles setting document (.endTag name) result none
  | root {name attributes size rest} (frame) (hroot : document.rootSeen = false)
      (hname : ElementKind.ofName name = .svg)
      (hsize : rootSize setting document.frame attributes = .ok size) (hrest : Block rest) :
      Handles setting document (.startTag name attributes)
        (push { document.write ([.save] ++ setting.placement.matrix.operators setting.pageHeight ++
            [.rect (drawingBox setting size), .paint .clip] ++ rest) with
          rootSeen := true, frame } ⟨.scope document.frame, false, false⟩) none
  | element {name attributes recording recorded defines result opening} (hroot : document.rootSeen = true)
      (hrecords : Records document name attributes recording recorded defines)
      (hopens : Opens setting recording (.ofName name) result opening)
      (hopening : ∀ id tags, opening ≠ .expansion id tags) :
      Handles setting document (.startTag name attributes)
        (result.push ⟨opening.closing, recorded, defines⟩) none
  | use {name attributes recording recorded defines id tags} (hroot : document.rootSeen = true)
      (hrecords : Records document name attributes recording recorded defines)
      (hopens : Opens setting recording (.ofName name) recording (.expansion id tags)) :
      Handles setting document (.startTag name attributes) (recording.beginExpansion id)
        (some ⟨id, tags, recorded, defines⟩)

theorem Handles.text_eq {setting : Setting α} {document result : Document α} {text : String}
    {begun : Option Expansion} (h : Handles setting document (.text text) result begun) :
    result = document.addText text ∧ begun = none := by
  cases h
  exact ⟨rfl, rfl⟩

end Document

namespace Stage

open Document

variable {α : Type}

/-- Where the next event comes from. -/
theorem fetch_eq_some {stage fetched : Stage α} {event : MarkupEvent}
    (h : stage.fetch = some (event, fetched)) :
    (∃ expansion tag rest outer, stage.expansions = expansion :: outer ∧ expansion.rest = tag :: rest ∧
        event = tag.event ∧ fetched.document = stage.document.addText tag.leadingText ∧
        fetched.expansions = { expansion with rest } :: outer ∧ fetched.rest = stage.rest) ∨
      (stage.expansions = [] ∧ stage.rest = event :: fetched.rest ∧ fetched.drawing = stage.drawing ∧
        fetched.expansions = []) := by
  rw [fetch] at h
  split at h
  next expansion outer hexpansions =>
    split at h
    · cases h
    next tag rest hrest =>
      cases h
      exact .inl ⟨expansion, tag, rest, outer, hexpansions, hrest, rfl, rfl, rfl, rfl⟩
  next hexpansions =>
    split at h
    · cases h
    next first rest hrest =>
      cases h
      exact .inr ⟨hexpansions, hrest, rfl, hexpansions⟩

/-- With an event comes at most the text in front of it. -/
theorem fetch_document {stage fetched : Stage α} {event : MarkupEvent}
    (h : stage.fetch = some (event, fetched)) :
    fetched.document = stage.document ∨ ∃ text, fetched.document = stage.document.addText text := by
  obtain ⟨expansion, tag, rest, outer, -, -, -, hdocument, -, -⟩ | ⟨-, -, hdrawing, -⟩ := fetch_eq_some h
  · exact .inr ⟨_, hdocument⟩
  · exact .inl (congrArg Drawing.document hdrawing)

/-- Nothing can be fetched at the end of an expansion or of the document. -/
theorem fetch_eq_none {stage : Stage α} (h : stage.fetch = none) :
    (∃ expansion outer, stage.expansions = expansion :: outer ∧ expansion.rest = []) ∨
      (stage.expansions = [] ∧ stage.rest = []) := by
  rw [fetch] at h
  split at h
  next expansion outer hexpansions =>
    split at h
    next hrest => exact .inl ⟨expansion, outer, hexpansions, hrest⟩
    · cases h
  next hexpansions =>
    split at h
    next hrest => exact .inr ⟨hexpansions, hrest⟩
    · cases h

variable [Scalar α]

/-- All that a step which does not fail can do: it ends an expansion, or handles one event. -/
inductive Passes (setting : Setting α) (stage next : Stage α) : Prop
  | expanded {expansion outer} (hexpansions : stage.expansions = expansion :: outer)
      (hrest : expansion.rest = [])
      (hdocument : next.document =
        (stage.document.endExpansion expansion.id).push expansion.element)
      (hnext : next.expansions = outer) (hevents : next.rest = stage.rest)
  | handled {event fetched begun} (hfetch : stage.fetch = some (event, fetched))
      (hhandles : Handles setting fetched.document event next.document begun)
      (hnext : next.expansions = begun.toList ++ fetched.expansions)
      (hevents : next.rest = fetched.rest)

/-- The document part of what opening the root does. -/
theorem openRoot_handles {setting : Setting α} {name : String} {attributes : Attributes}
    {drawing next : Drawing α} (hroot : drawing.document.rootSeen = false)
    (h : Draw.openRoot setting name attributes drawing = (.ok (), next)) :
    Handles setting drawing.document (.startTag name attributes) next.document none := by
  rw [Draw.openRoot] at h
  split at h
  · cases h
  next hname =>
    dsimp only at h
    split at h
    · cases h
    next opened closing ledger hopened =>
      cases h
      obtain ⟨size, rest, hsize, hrest, rfl, hresult⟩ := openRoot_eq hopened
      rw [hresult]
      exact .root _ hroot (by simpa using hname) hsize hrest

theorem startTag_passes {setting : Setting α} {embed : Option (Embedding α)} {stage next : Stage α}
    {name : String} {attributes : Attributes}
    (h : (stage.startTag setting name attributes).resolve embed = some (.ok next)) :
    ∃ begun, Handles setting stage.document (.startTag name attributes) next.document begun ∧
      next.expansions = begun.toList ++ stage.expansions ∧ next.rest = stage.rest := by
  rw [startTag] at h
  split at h
  next hroot =>
    obtain ⟨recording, hrecords, hopens⟩ := beginTag_eq setting stage.document name attributes
      stage.drawing.ledger
    revert h
    generalize stage.document.beginTag setting name attributes stage.drawing.ledger = result at hrecords hopens ⊢
    intro h
    obtain ⟨⟨document, ⟨opening, recorded, defines⟩⟩, ledger⟩ := result
    cases opening with
    | element closing =>
      cases h
      exact ⟨none, .element hroot hrecords hopens (by simp), rfl, rfl⟩
    | expansion id tags =>
      cases h
      obtain ⟨rfl, -⟩ := hopens.expansion_inv
      exact ⟨some _, .use hroot hrecords hopens, rfl, rfl⟩
    | embedding inner markup =>
      cases embed with
      | none =>
        cases h
        exact ⟨none, .element hroot hrecords hopens (by simp), rfl, rfl⟩
      | some embed =>
        simp only [afterBegun, Progress.resolve] at h
        split at h
        · cases h
          exact ⟨none, .element hroot hrecords hopens (by simp), rfl, rfl⟩
        · cases h
  next hroot =>
    rw [advanceBy] at h
    split at h
    next drawing hdrawing =>
      cases h
      exact ⟨none, openRoot_handles (Bool.eq_false_iff.2 hroot) hdrawing, rfl, rfl⟩
    · cases h

/-- A step that does not fail does one of the things a step can do. -/
theorem step_passes {setting : Setting α} {embed : Option (Embedding α)} {stage next : Stage α}
    (h : (stage.step setting).resolve embed = some (.ok next)) : Passes setting stage next := by
  rw [step] at h
  split at h
  next event fetched hfetch =>
    cases event with
    | startTag name attributes =>
      obtain ⟨begun, hhandles, hnext, hevents⟩ := startTag_passes h
      exact .handled hfetch hhandles hnext hevents
    | endTag name =>
      cases helements : fetched.document.openElements with
      | nil =>
        rw [handle, advanceBy, Draw.endTag_nil setting name helements] at h
        cases h
      | cons element outer =>
        rw [handle, advanceBy, Draw.endTag_cons setting name helements] at h
        cases h
        exact .handled hfetch (.endTag helements (endElement_ends ..)) rfl rfl
    | text text =>
      cases h
      exact .handled hfetch (.text text) rfl rfl
  next hfetch =>
    obtain ⟨expansion, outer, hexpansions, hrest⟩ | ⟨hexpansions, -⟩ := fetch_eq_none hfetch
    · rw [hexpansions] at h
      cases h
      exact .expanded hexpansions hrest rfl rfl rfl
    · rw [hexpansions] at h
      cases h

/-- A step takes at most one of the events still to come. -/
theorem Passes.exists_rest {setting : Setting α} {stage next : Stage α} (h : Passes setting stage next) :
    ∃ consumed, stage.rest = consumed ++ next.rest := by
  cases h with
  | expanded hexpansions hrest hdocument hnext hevents => exact ⟨[], hevents.symm⟩
  | handled hfetch hhandles hnext hevents =>
    obtain ⟨expansion, tag, rest, outer, -, -, -, -, -, hrest⟩ | ⟨-, hrest, -, -⟩ := fetch_eq_some hfetch
    · exact ⟨[], (hevents.trans hrest).symm⟩
    · exact ⟨[_], hevents ▸ hrest⟩

/-- What no step that does not fail takes away holds at all stages that are passed. -/
theorem Runs.induction_step {setting : Setting α} {embed : Option (Embedding α)} {P : Stage α → Prop}
    {first last : Stage α} (h : Runs setting embed (.ok first) (.ok last)) (hfirst : P first)
    (hstep : ∀ stage next, P stage → (stage.step setting).resolve embed = some (.ok next) → P next) :
    P last := by
  have hall : ∀ outcome : Outcome α, Runs setting embed (.ok first) outcome →
      ∀ stage, outcome = .ok stage → P stage := by
    intro outcome hruns
    induction hruns with
    | refl =>
      intro stage hstage
      cases hstage
      exact hfirst
    | tail _ hleads ih =>
      intro stage hstage
      subst hstage
      cases hleads with
      | step hresolve => exact hstep _ stage (ih _ rfl) hresolve
  exact hall (.ok last) h last rfl

/-- What no step takes away holds at all stages that are passed. -/
theorem Runs.induction {setting : Setting α} {embed : Option (Embedding α)} {P : Stage α → Prop}
    {first last : Stage α} (h : Runs setting embed (.ok first) (.ok last)) (hfirst : P first)
    (hstep : ∀ stage next, P stage → Passes setting stage next → P next) : P last :=
  h.induction_step hfirst fun stage next hstage hresolve => hstep stage next hstage (step_passes hresolve)

end Stage

end SvgPage
