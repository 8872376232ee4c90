import SvgPage.Proofs.Drawing.Adds
import SvgPage.Proofs.Traversal.Balance
import SvgPage.Proofs.Traversal.Turns

namespace SvgPage

open Document GraphicsState

variable {α : Type} [Scalar α]

/-- How a canvas fits the elements that are open, and the frame inside the innermost of them. The graphics
    state in force is what the frame intends; for each element that restores one there is a saved one, which
    fits what is around the element; the root has saved the one in which the page begins. -/
inductive Layers (pageHeight : α) : List (OpenElement α) → Frame α → Canvas α → Prop
  | root {previous recorded defines frame actual} (hactual : frame.graphics.Realizes pageHeight actual) :
      Layers pageHeight [⟨.scope previous, recorded, defines⟩] frame ⟨actual, [.initial]⟩
  | shares {element elements frame canvas} (hsaves : element.closing.saves = false)
      (hframe : frame.graphics = (element.closing.outerFrame frame).graphics)
      (houter : Layers pageHeight elements (element.closing.outerFrame frame) canvas) :
      Layers pageHeight (element :: elements) frame canvas
  | saves {element elements frame actual outer} (hsaves : element.closing.saves = true)
      (hactual : frame.graphics.Realizes pageHeight actual)
      (houter : Layers pageHeight elements (element.closing.outerFrame frame) outer) :
      Layers pageHeight (element :: elements) frame ⟨actual, outer.state :: outer.saved⟩

namespace Layers

variable {pageHeight : α} {elements : List (OpenElement α)} {element : OpenElement α} {frame : Frame α}
  {canvas : Canvas α} {resources : List (Resource α)} {concern : Concern α}

theorem realizes (h : Layers pageHeight elements frame canvas) :
    frame.graphics.Realizes pageHeight canvas.state := by
  induction h with
  | root hactual => exact hactual
  | shares hsaves hframe houter ih => rwa [hframe]
  | saves hsaves hactual houter ih => exact hactual

/-- An element is opened. -/
theorem push {document result : Document α} {closing : Closing α}
    (h : Layers pageHeight document.openElements document.frame canvas)
    (hdraws : Draws resources concern pageHeight document result closing)
    (hframe : closing.outerFrame result.frame = document.frame) (recorded defines : Bool) :
    ∃ operators last, result.output.toList = document.output.toList ++ operators ∧
      Reads resources concern.holds canvas operators last ∧
      Layers pageHeight (⟨closing, recorded, defines⟩ :: document.openElements) result.frame last := by
  cases hdraws with
  | leaves hsaves hgraphics houtput hleaves =>
    refine ⟨_, canvas, houtput, hleaves _ _ h.realizes, .shares hsaves ?_ ?_⟩
    · rw [hframe, hgraphics]
    · rwa [hframe]
  | saves hsaves houtput hafter hadjusts =>
    obtain ⟨next, hreads, hnext⟩ := hadjusts canvas.state (canvas.state :: canvas.saved) h.realizes
    refine ⟨_, _, houtput, (Reads.cons (concern.of_quiet _ rfl rfl) rfl .nil).append hreads,
      .saves hsaves ?_ ?_⟩
    · rwa [hafter]
    · rwa [hframe]

/-- The innermost element is closed. -/
theorem pop {operators : List (Operator α)} (h : Layers pageHeight (element :: elements) frame canvas)
    (hleaves : Leaves resources concern pageHeight frame.graphics operators) :
    ∃ last, Reads resources concern.holds canvas
        (operators ++ if element.closing.saves then [.restore] else []) last ∧
      (elements = [] ∧ last = .initial ∨
        Layers pageHeight elements (element.closing.outerFrame frame) last) := by
  have hreads := hleaves canvas.state canvas.saved h.realizes
  cases h with
  | root hactual =>
    exact ⟨.initial, hreads.append (.cons (concern.of_quiet _ rfl rfl) rfl .nil), .inl ⟨rfl, rfl⟩⟩
  | shares hsaves hframe houter =>
    rw [hsaves]
    exact ⟨canvas, hreads.append .nil, .inr houter⟩
  | @saves _ _ _ _ outer hsaves hactual houter =>
    rw [hsaves]
    exact ⟨outer, hreads.append (.cons (concern.of_quiet _ rfl rfl) rfl .nil), .inr houter⟩

end Layers

/-- How a canvas fits a document. Outside its root, it is the beginning of a page. -/
inductive Layered (pageHeight : α) (document : Document α) : Canvas α → Prop
  | outside (helements : document.openElements = [])
      (hframe : document.rootSeen = false →
        document.frame.opacity = 1 ∧ document.frame.blendMode = .normal) :
      Layered pageHeight document .initial
  | inside {canvas} (hroot : document.rootSeen = true)
      (hlayers : Layers pageHeight document.openElements document.frame canvas) :
      Layered pageHeight document canvas

namespace Layered

variable {pageHeight : α} {document result : Document α} {canvas : Canvas α}

theorem of_eq (h : Layered pageHeight document canvas) (hroot : result.rootSeen = document.rootSeen)
    (helements : result.openElements = document.openElements) (hframe : result.frame = document.frame) :
    Layered pageHeight result canvas := by
  cases h with
  | outside hnone hinitial =>
    refine .outside (helements.trans hnone) ?_
    rwa [hroot, hframe]
  | inside hseen hlayers =>
    refine .inside (hroot.trans hseen) ?_
    rwa [helements, hframe]

theorem layers (h : Layered pageHeight document canvas) (hinside : document.openElements ≠ []) :
    Layers pageHeight document.openElements document.frame canvas := by
  cases h with
  | outside hnone hinitial => exact absurd hnone hinside
  | inside hseen hlayers => exact hlayers

variable {resources : List (Resource α)} {concern : Concern α} {element : OpenElement α}

/-- An element is opened inside the root. -/
theorem push {closing : Closing α} (h : Layered pageHeight document canvas)
    (hinside : document.openElements ≠ []) (hdraws : Draws resources concern pageHeight document result closing)
    (hframe : closing.outerFrame result.frame = document.frame) (hroot : result.rootSeen = document.rootSeen)
    (helements : result.openElements = document.openElements) (recorded defines : Bool) :
    ∃ operators last, result.output.toList = document.output.toList ++ operators ∧
      Reads resources concern.holds canvas operators last ∧
      Layered pageHeight (result.push ⟨closing, recorded, defines⟩) last := by
  cases h with
  | outside hnone hinitial => exact absurd hnone hinside
  | inside hseen hlayers =>
    obtain ⟨operators, last, houtput, hreads, hlast⟩ := hlayers.push hdraws hframe recorded defines
    refine ⟨operators, last, houtput, hreads, .inside (hroot.trans hseen) ?_⟩
    rw [← helements] at hlast
    exact hlast

/-- The innermost element is closed. -/
theorem pop {outer : List (OpenElement α)} {operators : List (Operator α)}
    (h : Layered pageHeight document canvas) (hopen : document.openElements = element :: outer)
    (hleaves : Leaves resources concern pageHeight document.frame.graphics operators)
    (hroot : result.rootSeen = document.rootSeen) (helements : result.openElements = outer)
    (hframe : result.frame = element.closing.outerFrame document.frame) :
    ∃ last, Reads resources concern.holds canvas
        (operators ++ if element.closing.saves then [.restore] else []) last ∧
      Layered pageHeight result last := by
  cases h with
  | outside hnone hinitial =>
    rw [hnone] at hopen
    cases hopen
  | inside hseen hlayers =>
    rw [hopen] at hlayers
    obtain ⟨last, hreads, ⟨hnone, rfl⟩ | houter⟩ := hlayers.pop hleaves
    · refine ⟨.initial, hreads, .outside (helements.trans hnone) fun hunseen => ?_⟩
      rw [hroot, hseen] at hunseen
      cases hunseen
    · refine ⟨last, hreads, .inside (hroot.trans hseen) ?_⟩
      rwa [helements, hframe]

variable [Scalar.Comparable α]

/-- The root is opened. -/
theorem openRoot {setting : Setting α} {name : String} {attributes : Attributes} {opened : Document α}
    {closing : Closing α} {ledger ledger' : Ledger α} (h : Layered setting.pageHeight document canvas)
    (hroot : document.rootSeen = false) (hname : ElementKind.ofName name = .svg)
    (hopened : ({ document with rootSeen := true }.openRoot setting attributes).run ledger =
      (.ok (opened, closing), ledger'))
    (hresources : ledger'.resources.toList <+: resources) :
    ∃ operators last, opened.output.toList = document.output.toList ++ operators ∧
      Reads resources (document.concern setting (.startTag name attributes)).holds canvas operators last ∧
      Layered setting.pageHeight (opened.push ⟨closing, false, false⟩) last := by
  cases h with
  | inside hseen hlayers =>
    rw [hroot] at hseen
    cases hseen
  | outside hnone hinitial =>
    let begun := { document with rootSeen := true }
    have hbegun : (begun.openRoot setting attributes).run ledger = _ := hopened
    have hframe : begun.frame.opacity = 1 ∧ begun.frame.blendMode = .normal := hinitial hroot
    have hlimits (operator : Operator α) (hlimiting : operator.isLimiting = true) (actual : GraphicsState α) :
        (document.concern setting (.startTag name attributes)).holds operator actual := by
      refine concern_of_isLimiting (fun _ _ kind hstart hkind => ?_) hlimiting actual
      cases hstart
      rw [hname] at hkind
      cases hkind
    obtain ⟨operators, hadjusts, houtput⟩ := openRoot_writes hlimits hframe.1 hframe.2 hbegun hresources
    obtain ⟨next, hreads, hnext⟩ := hadjusts .initial [.initial] (.initial setting.pageHeight)
    obtain ⟨size, rest, -, -, rfl, hresult⟩ := openRoot_eq hopened
    have hseen : opened.rootSeen = true := by
      rw [hresult]
      rfl
    have helements : opened.openElements = [] := by
      rw [hresult]
      exact hnone
    refine ⟨_, ⟨next, [.initial]⟩, houtput,
      (Reads.cons (Concern.of_quiet _ _ rfl rfl) rfl .nil).append hreads, .inside hseen ?_⟩
    change Layers _ (_ :: opened.openElements) _ _
    rw [helements]
    exact .root hnext

end Layered

namespace Document

omit [Scalar α] in
theorem addText_gradients (document : Document α) (text : String) :
    (document.addText text).gradients = document.gradients := by
  simp only [addText]
  split <;> split <;> rfl

end Document

namespace Turns

variable {setting : Setting α} {drawing next : Drawing α} {event : MarkupEvent}

theorem extends_ledger (h : Turns setting drawing next event) : drawing.ledger.Extends next.ledger := by
  cases h with
  | text hnext =>
    rw [hnext]
    exact List.prefix_refl _
  | endTag helements hnext =>
    rw [hnext]
    exact (Adds.endElement ..).grows.extends_ledger _
  | @root _ attributes _ _ _ hroot hname hopened hnext =>
    have hgrows := openRoot_extends setting { drawing.document with rootSeen := true } attributes drawing.ledger
    rw [hopened] at hgrows
    rw [hnext]
    exact hgrows
  | element hroot hnext => exact ((AddsWith.beginTag ..).grows.extends_ledger _).trans hnext.1
  | use hroot hnext =>
    obtain ⟨-, hledger, -⟩ := hnext
    rw [hledger]
    exact (AddsWith.beginTag ..).grows.extends_ledger _

variable [Scalar.Comparable α] {resources : List (Resource α)} {canvas : Canvas α}

/-- What an event writes leads from a canvas that fits the document to one that fits what it becomes. -/
theorem layered (h : Turns setting drawing next event)
    (hlayered : Layered setting.pageHeight drawing.document canvas)
    (hresources : next.ledger.resources.toList <+: resources)
    (hinside : ∀ name attributes, event = .startTag name attributes → drawing.document.rootSeen = true →
      drawing.document.openElements ≠ []) :
    ∃ operators last, next.document.output.toList = drawing.document.output.toList ++ operators ∧
      Reads resources (drawing.document.concern setting event).holds canvas operators last ∧
      Layered setting.pageHeight next.document last := by
  cases h with
  | @text text hnext =>
    subst hnext
    have hstanding := drawing.document.addText_standing text
    refine ⟨[], canvas, ?_, .nil, hlayered.of_eq (congrArg Standing.rootSeen hstanding)
      (congrArg Standing.openElements hstanding)
      (congrArg Scope.frame (drawing.document.addText_scope text))⟩
    rw [List.append_nil]
    exact congrArg Array.toList (drawing.document.addText_output text)
  | @endTag name element outer helements hnext =>
    subst hnext
    let popped := { drawing.document with openElements := outer }
    have hends := endElement_ends setting popped element name drawing.ledger
    obtain ⟨operators, hleaves, houtput⟩ := popped.endElement_writes element name hresources
    obtain ⟨last, hreads, hlast⟩ := hlayered.pop helements hleaves
      (congrArg Standing.rootSeen hends.standing_eq) (congrArg Standing.openElements hends.standing_eq)
      ((congrArg Scope.frame hends.scope_eq).trans (element.closing.undo_frame popped.scope))
    exact ⟨_, last, houtput, hreads.mono (concern_congr rfl rfl), hlast⟩
  | @root name attributes opened closing ledger hroot hname hopened hnext =>
    subst hnext
    exact hlayered.openRoot hroot hname hopened hresources
  | @element name attributes hroot hnext =>
    obtain ⟨hextends, hdocument⟩ := hnext
    have hbegun := hextends.trans hresources
    have hdraws := beginTag_draws (hextends.trans hresources)
    obtain ⟨recording, hrecords, hopens⟩ := beginTag_eq setting drawing.document name attributes drawing.ledger
    have hstanding := hopens.standing_eq.trans hrecords.standing_eq
    have hframe := congrArg Scope.frame (hopens.undo_scope.trans hrecords.scope_eq)
    rw [Closing.undo_frame] at hframe
    rw [hdocument]
    exact hlayered.push (hinside name attributes rfl hroot) hdraws hframe
      (congrArg Standing.rootSeen hstanding) (congrArg Standing.openElements hstanding) _ _
  | @use name attributes id tags hroot hnext =>
    obtain ⟨hopening, hledger, hdocument⟩ := hnext
    obtain ⟨recording, hrecords, hopens⟩ := beginTag_eq setting drawing.document name attributes drawing.ledger
    rw [hopening] at hopens
    obtain ⟨hsame, -⟩ := hopens.expansion_inv
    rw [hdocument, hsame]
    have hstanding := hrecords.standing_eq
    refine ⟨[], canvas, ?_, .nil, hlayered.of_eq (congrArg Standing.rootSeen hstanding)
      (congrArg Standing.openElements hstanding) (congrArg Scope.frame hrecords.scope_eq)⟩
    rw [List.append_nil]
    exact congrArg Array.toList hrecords.output_eq

end Turns

end SvgPage
