import SvgPage.Proofs.Drawing.Plain
import SvgPage.Proofs.Drawing.Quiet
import SvgPage.Proofs.Drawing.Records
import SvgPage.Proofs.Text.Stretch
import SvgPage.Proofs.Traversal.Action
import SvgPage.Proofs.Traversal.Recorded

namespace SvgPage

variable {α : Type} [Scalar α]

/-- Operators show runs of text, each as it is painted in a frame, and no other text. -/
inductive Shows : List (Frame α × TextRun α) → List (Operator α) → Prop
  | mute {operators} (h : AreMute operators) : Shows [] operators
  | run (frame run ledger) : Shows [(frame, run)] (paintRun frame run ledger).1
  | append {laid more operators rest} (h : Shows laid operators) (hrest : Shows more rest) :
      Shows (laid ++ more) (operators ++ rest)

/-- From one state of a document and the ledger to another, runs of text have been laid out, and each has been
    painted in a frame. -/
structure Lays (laid : List (Frame α × TextRun α)) (before : Document α × Ledger α)
    (after : Document α × Ledger α) : Prop where
  runs : after.2.runs.toList = before.2.runs.toList ++ laid.map Prod.snd
  shows : ∃ operators, after.1.output.toList = before.1.output.toList ++ operators ∧ Shows laid operators

namespace Lays

variable {laid more : List (Frame α × TextRun α)} {before between after : Document α × Ledger α}

theorem trans (hfirst : Lays laid before between) (hsecond : Lays more between after) :
    Lays (laid ++ more) before after := by
  obtain ⟨operators, houtput, hshows⟩ := hfirst.shows
  obtain ⟨rest, hrest, hmore⟩ := hsecond.shows
  refine ⟨?_, operators ++ rest, ?_, hshows.append hmore⟩
  · rw [hsecond.runs, hfirst.runs, List.map_append, List.append_assoc]
  · rw [hrest, houtput, List.append_assoc]

/-- Nothing is laid out where no text is written. -/
theorem of_mute {operators : List (Operator α)} (hmute : AreMute operators) (hruns : after.2.runs = before.2.runs)
    (houtput : after.1.output.toList = before.1.output.toList ++ operators) : Lays [] before after :=
  ⟨hruns ▸ (List.append_nil _).symm, operators, houtput, .mute hmute⟩

theorem of_eq (hruns : after.2.runs = before.2.runs) (houtput : after.1.output = before.1.output) :
    Lays [] before after :=
  .of_mute .nil hruns (houtput ▸ (List.append_nil _).symm)

end Lays

/-- What matters of a document for a text in it: the frame, the text itself, whether elements are drawn, and
    what the elements that are open have to undo. -/
structure Slate (α : Type) where
  rootSeen : Bool
  isDrawing : Bool
  frame : Frame α
  text : Option (TextState α)
  closings : List (Closing α)

namespace Document

omit [Scalar α] in
def slate (document : Document α) : Slate α where
  rootSeen := document.rootSeen
  isDrawing := document.isDrawing
  frame := document.frame
  text := document.text
  closings := document.openElements.map OpenElement.closing

section Slates

variable (document : Document α)

omit [Scalar α] in
theorem plain_slate : document.plain.slate = document.slate := by
  simp only [slate, plain, List.map_map]
  rfl

omit [Scalar α] in
theorem slate_of_plain {other : Document α} (h : other.plain = document.plain) : other.slate = document.slate := by
  rw [← plain_slate, h, plain_slate]

omit [Scalar α] in
theorem recordStart_slate (name : String) (attributes : Attributes) (kind : ElementKind) :
    (document.recordStart name attributes kind).1.slate = document.slate :=
  slate_of_plain document (recordStart_plain document name attributes kind)

omit [Scalar α] in
theorem enter_slate (frame : Frame α) :
    (document.enter frame).slate =
      { document.slate with
        frame := { frame with hidden := document.frame.hidden || frame.style.text .display == "none" } } := rfl

omit [Scalar α] in
/-- Characters of a text that is drawn are pending. -/
theorem addText_slate {state : TextState α} (htext : document.text = some state)
    (hdrawing : document.isDrawing = true) (text : String) :
    (document.addText text).slate =
      { document.slate with text := some { state with pending := state.pending ++ text } } := by
  simp only [addText, htext, hdrawing]
  split <;> rfl

end Slates

variable (setting : Setting α) {document : Document α} {state : TextState α}

/-- The run that is pending is laid out and painted in the frame of the document. -/
theorem flushText_lays (htext : document.text = some state) (atEnd : Bool) (ledger : Ledger α) :
    let style := document.frame.style
    let flushed := document.flushText setting atEnd ledger
    flushed.1.slate = { document.slate with text := some (state.behind setting style atEnd) } ∧
      Lays ((state.run? setting style atEnd).toList.map (document.frame, ·)) (document, ledger) flushed := by
  intro style flushed
  by_cases hempty : (visibleText state.pending state.collapse atEnd).isEmpty = true
  · have hrun : state.run? setting style atEnd = none := by
      simp only [TextState.run?, hempty, if_true]
    have hflushed : flushed = ({ document with text := some { state with pending := "" } }, ledger) := by
      simp only [flushed, flushText, htext, hempty, if_true]
      rfl
    rw [hflushed, TextState.behind, hrun]
    exact ⟨rfl, .of_eq rfl rfl⟩
  · let run : TextRun α := .ofStyle (visibleText state.pending state.collapse atEnd) state.x
      (setting.pageHeight - state.y) style
    let laidOut : Ledger α := { ledger with runs := ledger.runs.push run }
    have hrun : state.run? setting style atEnd = some run := by
      simp only [TextState.run?, hempty, Bool.false_eq_true, if_false, run]
    have hbehind : state.behind setting style atEnd =
        { state with
          x := state.x + run.advance
          pending := ""
          collapse := run.text.toList.getLast? == some ' ' } := by
      rw [TextState.behind, hrun]
    have hflushed : flushed =
        ({ document with text := some (state.behind setting style atEnd) }.write
          (paintRun document.frame run laidOut).1, (paintRun document.frame run laidOut).2) := by
      simp only [flushed, flushText, htext, hempty, Bool.false_eq_true, if_false, bind_apply, pure_apply, hbehind]
      rfl
    rw [hflushed, hrun]
    refine ⟨rfl, ?_, _, write_output .., .run document.frame run laidOut⟩
    rw [(Quiet.paintRun document.frame run).runs]
    exact Array.toList_push

end Document

/-- Whether an element inside a text leaves its content in the text. -/
def ElementKind.joinsText : ElementKind → Bool
  | span | group | shape _ | gradient _ | stop | unknown _ => true
  | _ => false

/-- What an element that joins a text has to undo, by the frame around it. -/
def Frame.closing (frame : Frame α) : ElementKind → Closing α
  | .span => .span frame
  | .group => .scope frame
  | .gradient _ => .gradient
  | _ => .nothing

/-- The frame of a text, inside a frame. -/
def Frame.ofText (setting : Setting α) (frame : Frame α) (attributes : Attributes) : Frame α :=
  let style := frame.style.resolve attributes setting.options.dpi
  { frame with
    style
    ctm := frame.ctm.multiply attributes.transform
    hidden := frame.hidden || style.text .display == "none" }

/-- What a text begins with, inside a frame. -/
def TextState.ofText (setting : Setting α) (frame : Frame α) (attributes : Attributes) (depth : Nat) :
    TextState α :=
  let context := (frame.style.resolve attributes setting.options.dpi).lengthContext setting.options.dpi
  { depth
    x := (Document.readPosition? attributes "x" frame.viewport.width context).getD 0 +
      Document.readShift attributes "dx"
    y := (Document.readPosition? attributes "y" frame.viewport.height context).getD 0 +
      Document.readShift attributes "dy"
    pending := ""
    collapse := true }

namespace Slate

variable (setting : Setting α) {frame : Frame α} {state : TextState α} {closings : List (Closing α)}
  {closing : Closing α} {tag : StartTag} {before after : Slate α} {laid : List (Frame α × TextRun α)}

/-- On each document with a slate an element is opened, which gives another slate and lays out runs. -/
def Opens (tag : StartTag) (before : Slate α) (closing : Closing α) (laid : List (Frame α × TextRun α))
    (after : Slate α) : Prop :=
  ∀ (document : Document α) ledger, document.slate = before → ∃ opened kept,
    document.openElement setting tag.kind tag.attributes ledger = ((opened, .element closing), kept) ∧
      opened.slate = after ∧ Lays laid (document, ledger) (opened, kept)

/-- On each document with a slate an element ends, which gives another slate and lays out runs. -/
def Ends (closing : Closing α) (before : Slate α) (laid : List (Frame α × TextRun α)) (after : Slate α) : Prop :=
  ∀ (document : Document α) (element : OpenElement α) name ledger, document.slate = before →
    element.closing = closing →
      let ended := document.endElement setting element name ledger
      ended.1.slate = after ∧ Lays laid (document, ledger) ended

/-! ## Start tags -/

/-- Nothing is laid out by a handler that writes no text. -/
theorem opens_of_quiet
    (h : ∀ document : Document α, document.slate = before → ∃ next : Document α,
      next.output = document.output ∧ next.slate = after ∧
        Quiet (document.openElement setting tag.kind tag.attributes) fun result =>
          ∃ operators, AreMute operators ∧ result = (next.write operators, .element closing)) :
    Opens setting tag before closing [] after := by
  intro document ledger hslate
  obtain ⟨next, houtput, hnext, hquiet⟩ := h document hslate
  obtain ⟨operators, hmute, hresult⟩ := hquiet.result ledger
  refine ⟨next.write operators, _, Prod.ext hresult rfl, hnext, .of_mute hmute (hquiet.runs ledger) ?_⟩
  rw [← houtput]
  exact Document.write_output ..

/-- An element that joins a text, and is no span, leaves the text as it is. -/
theorem opens_joins (hkind : tag.kind.joinsText = true) (hspan : tag.kind ≠ .span) :
    Opens setting tag ⟨true, true, frame, some state, closings⟩ (frame.closing tag.kind) []
      ⟨true, true, frame.inside setting tag, some state, closings⟩ := by
  refine opens_of_quiet setting fun document hslate => ?_
  have hframe : document.frame = frame := congrArg Slate.frame hslate
  have hdrawing : document.isDrawing = true := congrArg Slate.isDrawing hslate
  have hclip : document.clip = none := by
    rw [Document.isDrawing, Bool.and_eq_true, Option.isNone_iff_eq_none] at hdrawing
    exact hdrawing.2
  -- What has no style of its own changes neither the frame nor the text.
  have hstill {kind : ElementKind} {closing : Closing α} (next : Document α)
      (hinside : frame.inside setting tag = frame) (hnext : next.slate = document.slate)
      (houtput : next.output = document.output)
      (hopened : document.openElement setting kind tag.attributes = pure (next, .element closing)) :
      ∃ next : Document α, next.output = document.output ∧
        next.slate = ⟨true, true, frame.inside setting tag, some state, closings⟩ ∧
        Quiet (document.openElement setting kind tag.attributes) fun result =>
          ∃ operators, AreMute operators ∧ result = (next.write operators, .element closing) := by
    rw [hinside, hopened]
    exact ⟨next, houtput, hnext.trans hslate, .pure ⟨[], .nil, by rw [Document.write_nil]⟩⟩
  cases htag : tag.kind with
  | span => exact absurd htag hspan
  | group =>
    let style := frame.style.resolve tag.attributes setting.options.dpi
    let inner : Frame α :=
      { frame with
        style
        ctm := frame.ctm.multiply tag.attributes.transform
        opacity := frame.opacity * style.number .opacity
        blendMode := frame.blend style.blendMode }
    refine ⟨document.enter inner, rfl, ?_, ?_⟩
    · rw [Document.enter_slate, hslate, hframe, Frame.inside, htag]
    · rw [Document.openElement_of_isDrawn hdrawing rfl]
      refine (Quiet.openGroup setting document tag.attributes).bind fun _ hgroup => ?_
      obtain ⟨operators, hmute, rfl⟩ := hgroup
      exact .pure ⟨operators, hmute, by rw [hframe]; rfl⟩
  | shape kind =>
    refine ⟨document, rfl, ?_, ?_⟩
    · rw [hslate, Frame.inside, htag]
    · rw [Document.openElement_of_isDrawn hdrawing rfl]
      refine (Quiet.drawShape setting document kind tag.attributes).bind fun _ hshape => ?_
      obtain ⟨operators, hmute, rfl⟩ := hshape
      exact .pure ⟨operators, hmute, rfl⟩
  | gradient kind =>
    have hopened : document.openElement setting (.gradient kind) tag.attributes =
        pure (document.openGradientElement kind tag.attributes, .element .gradient) := by
      simp only [Document.openElement, hclip]
    refine hstill (document.openGradientElement kind tag.attributes) ?_ rfl rfl hopened
    rw [Frame.inside, htag]
  | stop =>
    obtain ⟨gradients, hadded⟩ := document.addStop_eq setting tag.attributes
    have hopened : document.openElement setting .stop tag.attributes =
        pure ({ document with gradients }, .element .nothing) := by
      simp only [Document.openElement, hclip, hadded]
      rfl
    refine hstill { document with gradients } ?_ rfl rfl hopened
    rw [Frame.inside, htag]
  | unknown name =>
    refine hstill document ?_ rfl rfl (Document.openElement_of_isDrawn hdrawing rfl tag.attributes)
    rw [Frame.inside, htag]
  | _ =>
    rw [htag] at hkind
    cases hkind

/-- A span lays out what is pending in the frame around it, and may move the text. -/
theorem opens_span (hkind : tag.kind = .span) :
    Opens setting tag ⟨true, true, frame, some state, closings⟩ (frame.closing tag.kind)
      ((state.run? setting frame.style false).toList.map (frame, ·))
      ⟨true, true, frame.inside setting tag,
        some ((state.behind setting frame.style false).moved setting frame tag.attributes), closings⟩ := by
  intro document ledger hslate
  obtain rfl : document.frame = frame := congrArg Slate.frame hslate
  have htext : document.text = some state := congrArg Slate.text hslate
  have hdrawing : document.isDrawing = true := congrArg Slate.isDrawing hslate
  obtain ⟨hflushed, hlays⟩ := Document.flushText_lays setting htext false ledger
  let move (state : TextState α) := state.moved setting document.frame tag.attributes
  let style := document.frame.style.resolve tag.attributes setting.options.dpi
  have hresult : document.openElement setting .span tag.attributes ledger =
      ((({ (document.flushText setting false ledger).1 with
            text := (document.flushText setting false ledger).1.text.map move }.enter { document.frame with style }),
        .element (.span document.frame)), (document.flushText setting false ledger).2) := by
    have houtside : ¬document.text.isNone = true := by
      rw [htext]
      exact Bool.false_ne_true
    rw [Document.openElement_of_isDrawn hdrawing rfl]
    simp only [Document.openDrawn, Document.opened, Document.openSpan, if_neg houtside, bind_apply, pure_apply]
    rfl
  generalize document.flushText setting false ledger = result at hflushed hlays hresult
  obtain ⟨flushed, kept⟩ := result
  dsimp only at hflushed
  rw [hslate] at hflushed
  have hframe : flushed.frame = document.frame := congrArg Slate.frame hflushed
  have hmoved : flushed.text = some (state.behind setting document.frame.style false) := congrArg Slate.text hflushed
  refine ⟨{ flushed with text := flushed.text.map move }.enter { document.frame with style }, kept, ?_, ?_,
    hlays.runs, hlays.shows⟩
  · rw [hkind]
    exact hresult
  · have hopened (text : Option (TextState α)) :
        { flushed with text }.slate = { flushed.slate with text } := rfl
    rw [Document.enter_slate, hopened, hflushed, hmoved, Frame.inside, hkind]
    dsimp only
    rw [hframe]
    rfl

/-- A text begins inside its own frame. -/
theorem opens_text {around : Option (TextState α)} (hkind : tag.kind = .text) :
    Opens setting tag ⟨true, true, frame, around, closings⟩ (.text frame around) []
      ⟨true, true, frame.ofText setting tag.attributes,
        some (.ofText setting frame tag.attributes closings.length), closings⟩ := by
  refine opens_of_quiet setting fun document hslate => ?_
  obtain rfl : document.frame = frame := congrArg Slate.frame hslate
  have htext : document.text = around := congrArg Slate.text hslate
  have hdrawing : document.isDrawing = true := congrArg Slate.isDrawing hslate
  have hdepth : document.openElements.length = closings.length :=
    List.length_map _ |>.symm.trans (congrArg List.length (congrArg Slate.closings hslate))
  let text : TextState α := .ofText setting document.frame tag.attributes closings.length
  let inner : Frame α :=
    { document.frame with
      style := document.frame.style.resolve tag.attributes setting.options.dpi
      ctm := document.frame.ctm.multiply tag.attributes.transform }
  refine ⟨{ document with text := some text }.enter inner, rfl, ?_, ?_⟩
  · have hopened : { document with text := some text }.slate = { document.slate with text := some text } := rfl
    rw [Document.enter_slate, hopened, hslate]
    rfl
  · rw [hkind, Document.openElement_of_isDrawn hdrawing rfl]
    refine (Quiet.openText setting document tag.attributes).bind fun _ htext => ?_
    obtain ⟨operators, hmute, rfl⟩ := htext
    refine .pure ⟨operators, hmute, ?_⟩
    rw [hdepth, htext]
    rfl

/-! ## End tags -/

/-- What an end tag does besides recordings is to undo the element. -/
theorem ends_of_close
    (h : ∀ (document : Document α) ledger, document.slate = before →
      let closed := document.close setting closing ledger
      closed.1.slate = after ∧ Lays laid (document, ledger) closed) :
    Ends setting closing before laid after := by
  intro document element name ledger hslate hclosing ended
  have hplain : document.plain.close setting closing ledger = (ended.1.plain, ended.2) :=
    hclosing ▸ Document.endElement_plain setting document ledger element name
  have hclosed := h document.plain ledger ((Document.plain_slate document).trans hslate)
  rw [hplain] at hclosed
  obtain ⟨hafter, hlays⟩ := hclosed
  exact ⟨(Document.plain_slate ended.1).symm.trans hafter, hlays.runs, hlays.shows⟩

/-- The end tag of an element that joins a text, and is no span, gives back the frame around it. -/
theorem ends_joins (hkind : tag.kind.joinsText = true) (hspan : tag.kind ≠ .span) :
    Ends setting (frame.closing tag.kind) ⟨true, true, frame.inside setting tag, some state, closings⟩ []
      ⟨true, true, frame, some state, closings⟩ := by
  refine ends_of_close setting fun document ledger hslate => ?_
  cases htag : tag.kind with
  | span => exact absurd htag hspan
  | group =>
    have hleft : { document with frame }.slate = { document.slate with frame } := rfl
    refine ⟨?_, .of_mute .restore rfl (Document.write_output ..)⟩
    exact hleft.trans (by rw [hslate])
  | shape | gradient | stop | unknown =>
    have hinside : frame.inside setting tag = frame := by rw [Frame.inside, htag]
    rw [hinside] at hslate
    exact ⟨hslate, .of_eq rfl rfl⟩
  | _ =>
    rw [htag] at hkind
    cases hkind

/-- The end tag of a span lays out what is pending in the frame of the span. -/
theorem ends_span {inner : Frame α} :
    Ends setting (.span frame) ⟨true, true, inner, some state, closings⟩
      ((state.run? setting inner.style false).toList.map (inner, ·))
      ⟨true, true, frame, some (state.behind setting inner.style false), closings⟩ := by
  refine ends_of_close setting fun document ledger hslate => ?_
  obtain rfl : document.frame = inner := congrArg Slate.frame hslate
  obtain ⟨hflushed, hlays⟩ := Document.flushText_lays setting (congrArg Slate.text hslate) false ledger
  have hclosed : document.close setting (.span frame) ledger =
      ({ (document.flushText setting false ledger).1 with frame }, (document.flushText setting false ledger).2) := rfl
  generalize document.flushText setting false ledger = flushed at hflushed hlays hclosed
  have hleft : { flushed.1 with frame }.slate = { flushed.1.slate with frame } := rfl
  rw [hclosed]
  refine ⟨?_, hlays.runs, hlays.shows⟩
  rw [hleft, hflushed, hslate]

/-- The end tag of a text lays out the rest of it, and gives back the frame and the text around it. -/
theorem ends_text {inner : Frame α} {around : Option (TextState α)} :
    Ends setting (.text frame around) ⟨true, true, inner, some state, closings⟩
      ((state.run? setting inner.style true).toList.map (inner, ·)) ⟨true, true, frame, around, closings⟩ := by
  refine ends_of_close setting fun document ledger hslate => ?_
  obtain rfl : document.frame = inner := congrArg Slate.frame hslate
  obtain ⟨hflushed, hlays⟩ := Document.flushText_lays setting (congrArg Slate.text hslate) true ledger
  have hclosed : document.close setting (.text frame around) ledger =
      ({ (document.flushText setting true ledger).1.leave frame with text := around },
        (document.flushText setting true ledger).2) := rfl
  generalize document.flushText setting true ledger = flushed at hflushed hlays hclosed
  have hleft : { flushed.1.leave frame with text := around }.slate =
      { flushed.1.slate with frame, text := around } := rfl
  have hrestored : Lays [] flushed ({ flushed.1.leave frame with text := around }, flushed.2) :=
    .of_mute .restore rfl (Document.write_output ..)
  have hboth := hlays.trans hrestored
  rw [List.append_nil] at hboth
  rw [hclosed]
  refine ⟨?_, hboth⟩
  rw [hleft, hflushed, hslate]

end Slate

/-! ## Whole texts -/

/-- Whether an element that begins in a text joins it. -/
def MarkupEvent.joinsText : MarkupEvent → Bool
  | .startTag name _ => (ElementKind.ofName name).joinsText
  | _ => true

/-- What the elements around the content of a text have to undo, innermost first. -/
def Frame.closings (setting : Setting α) (base : Frame α) : List StartTag → List (Closing α)
  | [] => []
  | tag :: around => (base.within setting around).closing tag.kind :: closings setting base around

namespace Draw

variable (setting : Setting α) (embed : Option (Embedding α)) {drawing : Drawing α} {frame outer : Frame α}
  {state : TextState α} {closings : List (Closing α)} {tag : StartTag}

/-- The runs of text that an action on a drawing lays out and paints. -/
abbrev LaysTo (laid : List (Frame α × TextRun α)) (before after : Drawing α) : Prop :=
  Lays laid (before.document, before.ledger) (after.document, after.ledger)

/-- A start tag is handled by opening its element, unless more than that is asked for. -/
theorem startTag_of_opens {before inside : Slate α} {closing : Closing α} {laid : List (Frame α × TextRun α)}
    (levels : Nat) (hslate : drawing.document.slate = before) (hroot : before.rootSeen = true)
    (hopens : before.Opens setting tag closing laid inside) :
    ∃ after, startTag setting embed levels tag.name tag.attributes drawing = (.ok (), after) ∧
      after.document.slate = { inside with closings := closing :: inside.closings } ∧ LaysTo laid drawing after := by
  obtain ⟨handler, hhandler⟩ := exists_startTagWith setting embed levels
  have hrecords := Document.recordStart_records drawing.document tag.name tag.attributes tag.kind
  let recorded := drawing.document.recordStart tag.name tag.attributes tag.kind
  have hrecorded : recorded.1.slate = before :=
    (drawing.document.recordStart_slate tag.name tag.attributes tag.kind).trans hslate
  obtain ⟨opened, kept, hopened, hinside, hlays⟩ := hopens recorded.1 drawing.ledger hrecorded
  have hbegun : drawing.document.beginTag setting tag.name tag.attributes drawing.ledger =
      ((opened, ⟨.element closing, recorded.2.1, recorded.2.2⟩), kept) := by
    change (recorded.1.openElement setting tag.kind tag.attributes >>= fun result =>
      pure (result.1, ⟨result.2, recorded.2.1, recorded.2.2⟩) : StateM (Ledger α) (Document α × Begun α))
        drawing.ledger = _
    rw [bind_apply, hopened, pure_apply]
  let after : Drawing α :=
    { drawing with document := opened.push ⟨closing, recorded.2.1, recorded.2.2⟩, ledger := kept }
  have hstarted : startTag setting embed levels tag.name tag.attributes drawing = (.ok (), after) := by
    have happly := startTagWith_apply setting embed handler tag.name tag.attributes
      ((congrArg Slate.rootSeen hslate).trans hroot)
    rw [hbegun] at happly
    rw [hhandler, happly]
    rfl
  have hafter : after.document.slate = { opened.slate with closings := closing :: opened.slate.closings } := rfl
  have hfirst : Lays [] (drawing.document, drawing.ledger) (recorded.1, drawing.ledger) :=
    .of_eq rfl hrecords.output_eq
  have hpushed : Lays laid (recorded.1, drawing.ledger) (after.document, after.ledger) :=
    ⟨hlays.runs, hlays.shows⟩
  exact ⟨after, hstarted, hafter.trans (by rw [hinside]), hfirst.trans hpushed⟩

/-- An end tag takes the innermost element from the stack and undoes it. -/
theorem endTag_of_ends {before outside : Slate α} {closing : Closing α} {laid : List (Frame α × TextRun α)}
    (name : String) (hslate : drawing.document.slate = { before with closings := closing :: before.closings })
    (hends : before.Ends setting closing laid outside) :
    ∃ after, endTag setting name drawing = (.ok (), after) ∧ after.document.slate = outside ∧
      LaysTo laid drawing after := by
  obtain ⟨element, rest, helements, hclosing, hrest⟩ := List.map_eq_cons_iff.1 (congrArg Slate.closings hslate)
  let popped : Document α := { drawing.document with openElements := rest }
  have hpopped : popped.slate = { drawing.document.slate with closings := rest.map OpenElement.closing } := rfl
  rw [hslate, hrest] at hpopped
  obtain ⟨hended, hlays⟩ := hends popped element name drawing.ledger hpopped hclosing
  exact ⟨_, endTag_cons setting name helements, hended, hlays.runs, hlays.shows⟩

/-- The rest of a text, with its end tag, lays out the runs of its stretches. -/
theorem events_lay {around : List StartTag} {outerText : Option (TextState α)} {content : List MarkupEvent}
    (last : String) (hslate : drawing.document.slate =
      ⟨true, true, frame.within setting around, some state,
        frame.closings setting around ++ .text outer outerText :: closings⟩)
    (hdepth : Tag.depthAfter around.length (MarkupEvent.tags content) = some 0)
    (haround : ∀ tag ∈ around, tag.kind.joinsText = true)
    (hcontent : ∀ event ∈ content, event.joinsText = true) :
    ∃ after, events setting embed (content ++ [.endTag last]) drawing = (.ok (), after) ∧
      after.document.slate = ⟨true, true, outer, outerText, closings⟩ ∧
      LaysTo (Stretch.laid setting frame state (Stretch.ofContent around content)) drawing after := by
  -- The elements that are open around the rest of the content are those that the slate has to undo before the text.
  induction content generalizing drawing around state with
  | nil =>
    cases around with
    | nil =>
      obtain ⟨after, hended, hafter, hlays⟩ := endTag_of_ends setting last hslate (Slate.ends_text setting)
      refine ⟨after, ?_, hafter, ?_⟩
      · rw [List.nil_append, events_singleton]
        exact hended
      · rw [Stretch.ofContent, Stretch.laid_cons]
        exact (List.append_nil _).symm ▸ hlays
    | cons => cases hdepth
  | cons event rest ih =>
    obtain ⟨hevent, hrest⟩ := List.forall_mem_cons.1 hcontent
    -- What one event leaves is where the others begin.
    have hgo {mid : Drawing α} {laid more : List (Frame α × TextRun α)}
        (hevent : Draw.event setting embed event drawing = (.ok (), mid)) (hmid : LaysTo laid drawing mid)
        (hmore : ∃ after, events setting embed (rest ++ [.endTag last]) mid = (.ok (), after) ∧
          after.document.slate = ⟨true, true, outer, outerText, closings⟩ ∧ LaysTo more mid after) :
        ∃ after, events setting embed ((event :: rest) ++ [.endTag last]) drawing = (.ok (), after) ∧
          after.document.slate = ⟨true, true, outer, outerText, closings⟩ ∧
          LaysTo (laid ++ more) drawing after := by
      obtain ⟨after, hafter, hslate, hlays⟩ := hmore
      refine ⟨after, ?_, hslate, hmid.trans hlays⟩
      rw [List.cons_append, events, bind_ok hevent, hafter]
    cases event with
    | text data =>
      have hadded :=
        drawing.document.addText_slate (congrArg Slate.text hslate) (congrArg Slate.isDrawing hslate) data
      rw [hslate] at hadded
      rw [Stretch.ofContent_text, Stretch.laid_addPiece]
      let mid : Drawing α := { drawing with document := drawing.document.addText data }
      have hlays : LaysTo [] drawing mid := .of_eq rfl (Document.addText_output ..)
      exact hgo rfl hlays (ih hadded hdepth haround hrest)
    | startTag name attributes =>
      let tag : StartTag := ⟨name, attributes⟩
      have hjoins : tag.kind.joinsText = true := hevent
      have hinside : ∀ other ∈ tag :: around, other.kind.joinsText = true :=
        List.forall_mem_cons.2 ⟨hjoins, haround⟩
      rw [Stretch.ofContent_startTag]
      by_cases hspan : tag.kind = .span
      · obtain ⟨mid, hevent, hmid, hlays⟩ := startTag_of_opens setting embed (useLevels setting drawing.document)
          hslate rfl (Slate.opens_span setting hspan)
        rw [if_pos hspan, Stretch.laid_cons, Stretch.isEmpty_ofContent]
        exact hgo hevent hlays (ih hmid hdepth hinside hrest)
      · obtain ⟨mid, hevent, hmid, hlays⟩ := startTag_of_opens setting embed (useLevels setting drawing.document)
          hslate rfl (Slate.opens_joins setting hjoins hspan)
        rw [if_neg hspan]
        exact hgo hevent hlays (ih hmid hdepth hinside hrest)
    | endTag name =>
      cases around with
      | nil => cases hdepth
      | cons tag around =>
        obtain ⟨hjoins, hinside⟩ := List.forall_mem_cons.1 haround
        rw [Stretch.ofContent_endTag]
        by_cases hspan : tag.kind = .span
        · rw [Frame.closings, hspan] at hslate
          obtain ⟨mid, hevent, hmid, hlays⟩ := endTag_of_ends setting name hslate (Slate.ends_span setting)
          rw [if_pos hspan, Stretch.laid_cons, Stretch.isEmpty_ofContent]
          exact hgo hevent hlays (ih hmid hdepth hinside hrest)
        · obtain ⟨mid, hevent, hmid, hlays⟩ := endTag_of_ends setting name hslate
            (Slate.ends_joins setting hjoins hspan)
          rw [if_neg hspan]
          exact hgo hevent hlays (ih hmid hdepth hinside hrest)

/-- A text that is drawn lays out the runs of its stretches, and is gone then. -/
theorem events_text {content : List MarkupEvent} (last : String) (hroot : drawing.document.rootSeen = true)
    (hdrawing : drawing.document.isDrawing = true) (hkind : tag.kind = .text)
    (htags : Tag.openAfter [] (MarkupEvent.tags content) = some [])
    (hcontent : ∀ event ∈ content, event.joinsText = true) :
    let frame := drawing.document.frame
    let state := TextState.ofText setting frame tag.attributes drawing.document.slate.closings.length
    ∃ after,
      events setting embed (.startTag tag.name tag.attributes :: (content ++ [.endTag last])) drawing =
          (.ok (), after) ∧
        after.document.slate = drawing.document.slate ∧
        LaysTo (Stretch.laid setting (frame.ofText setting tag.attributes) state (Stretch.ofContent [] content))
          drawing after := by
  intro frame state
  have hslate : drawing.document.slate =
      ⟨true, true, frame, drawing.document.text, drawing.document.slate.closings⟩ := by
    rw [Document.slate, hroot, hdrawing]
  obtain ⟨begun, hstarted, hbegun, hfirst⟩ := startTag_of_opens setting embed
    (useLevels setting drawing.document) hslate rfl (Slate.opens_text setting hkind)
  have hjoins : ∀ tag ∈ ([] : List StartTag), tag.kind.joinsText = true := List.forall_mem_nil _
  obtain ⟨after, hevents, hafter, hlays⟩ := events_lay setting embed last hbegun (Tag.depthAfter_of_openAfter htags)
    hjoins hcontent
  have hevent : event setting embed (.startTag tag.name tag.attributes) drawing = (.ok (), begun) := hstarted
  refine ⟨after, ?_, hafter.trans hslate.symm, hfirst.trans hlays⟩
  rw [events, bind_ok hevent, hevents]

end Draw

end SvgPage
