import SvgPage.Proofs.Drawing.Adds
import SvgPage.Proofs.Traversal.Lineages

namespace SvgPage

variable {α : Type} [Scalar α]

/-- A part of the content of a text that no tag of a span interrupts: its characters, in pieces that come with
    the elements of the text around them, innermost first; the elements around the tag that ends the part; and
    the attributes of a span that begins there. -/
structure Stretch where
  pieces : List (String × List StartTag)
  around : List StartTag
  begins : Option Attributes

namespace Stretch

def text (stretch : Stretch) : String := String.join (stretch.pieces.map Prod.fst)

/-- The characters of stretches, one after the other. -/
def joined (stretches : List Stretch) : String := String.join (stretches.map text)

/-- Puts a piece in front of the first stretch. -/
def addPiece (piece : String × List StartTag) : List Stretch → List Stretch
  | [] => []
  | stretch :: rest => { stretch with pieces := piece :: stretch.pieces } :: rest

end Stretch

namespace Frame

/-- The frame inside an element that joins a text. Groups and spans have a style of their own, and what is inside
    them is hidden where they are not displayed; others leave the frame as it is. -/
def inside (setting : Setting α) (frame : Frame α) (tag : StartTag) : Frame α :=
  let style := frame.style.resolve tag.attributes setting.options.dpi
  let hidden := frame.hidden || style.text .display == "none"
  match tag.kind with
  | .span => { frame with style, hidden }
  | .group =>
    { frame with
      style
      ctm := frame.ctm.multiply tag.attributes.transform
      opacity := frame.opacity * style.number .opacity
      blendMode := frame.blend style.blendMode
      hidden }
  | _ => frame

/-- The frame inside elements of a text, innermost first. -/
def within (setting : Setting α) (frame : Frame α) (around : List StartTag) : Frame α :=
  around.foldr (fun tag outer => outer.inside setting tag) frame

end Frame

namespace TextState

variable (setting : Setting α) (state : TextState α)

/-- The run that the characters that are pending come to in a style, if any of them is shown. -/
def run? (style : Style α) (atEnd : Bool) : Option (TextRun α) :=
  let value := visibleText state.pending state.collapse atEnd
  if value.isEmpty then none else some (.ofStyle value state.x (setting.pageHeight - state.y) style)

/-- The text behind those characters. -/
def behind (style : Style α) (atEnd : Bool) : TextState α :=
  match state.run? setting style atEnd with
  | none => { state with pending := "" }
  | some run =>
    { state with
      x := state.x + run.advance
      pending := ""
      collapse := run.text.toList.getLast? == some ' ' }

/-- The text where a span begins inside a frame. -/
def moved (frame : Frame α) (attributes : Attributes) : TextState α :=
  let context := (frame.style.resolve attributes setting.options.dpi).lengthContext setting.options.dpi
  { state with
    x := (Document.readPosition? attributes "x" frame.viewport.width context).getD state.x +
      Document.readShift attributes "dx"
    y := (Document.readPosition? attributes "y" frame.viewport.height context).getD state.y +
      Document.readShift attributes "dy" }

/-- The text behind the end of a stretch, where a span may begin. -/
def movedBy (frame : Frame α) (begins : Option Attributes) : TextState α :=
  begins.elim state (state.moved setting frame)

theorem pending_behind (style : Style α) (atEnd : Bool) : (state.behind setting style atEnd).pending = "" := by
  rw [behind]
  split <;> rfl

variable (frame : Frame α) (begins : Option Attributes)

theorem pending_movedBy : (state.movedBy setting frame begins).pending = state.pending := by
  cases begins <;> rfl

theorem collapse_movedBy : (state.movedBy setting frame begins).collapse = state.collapse := by
  cases begins <;> rfl

end TextState

namespace Stretch

/-- The runs that stretches of a text come to, each with its stretch. The last one ends the text. -/
def typeset (setting : Setting α) (base : Frame α) : TextState α → List Stretch → List (Stretch × TextRun α)
  | _, [] => []
  | state, stretch :: rest =>
    let frame := base.within setting stretch.around
    let filled := { state with pending := state.pending ++ stretch.text }
    let behind := filled.behind setting frame.style rest.isEmpty
    let next := behind.movedBy setting frame stretch.begins
    (filled.run? setting frame.style rest.isEmpty).toList.map (stretch, ·) ++ typeset setting base next rest

/-- The runs of stretches, each with the frame in which it is painted. -/
def laid (setting : Setting α) (base : Frame α) (state : TextState α) (stretches : List Stretch) :
    List (Frame α × TextRun α) :=
  (typeset setting base state stretches).map fun (stretch, run) => (base.within setting stretch.around, run)

/-- A piece in front of a text is pending before anything else. -/
theorem laid_addPiece (setting : Setting α) (base : Frame α) (state : TextState α)
    (piece : String × List StartTag) (stretches : List Stretch) :
    laid setting base state (addPiece piece stretches) =
      laid setting base { state with pending := state.pending ++ piece.1 } stretches := by
  cases stretches with
  | nil => rfl
  | cons stretch rest =>
    have htext : text { stretch with pieces := piece :: stretch.pieces } = piece.1 ++ stretch.text := String.join_cons
    rw [laid, laid, addPiece, typeset, typeset, htext, ← String.append_assoc]
    simp only [List.map_append, List.map_map]
    rfl

/-- The run of a stretch shows its characters, in the style that is current at its end. -/
theorem of_mem_typeset {setting : Setting α} {base : Frame α} {state : TextState α} {stretches : List Stretch}
    {stretch : Stretch} {run : TextRun α} (hpending : state.pending = "")
    (h : (stretch, run) ∈ typeset setting base state stretches) :
    stretch ∈ stretches ∧
      ∃ atStart atEnd x y,
        run = .ofStyle (visibleText stretch.text atStart atEnd) x y (base.within setting stretch.around).style := by
  induction stretches generalizing state with
  | nil => cases h
  | cons first rest ih =>
    rw [typeset, List.mem_append] at h
    obtain hfirst | hrest := h
    · obtain ⟨_, hrun, hsame⟩ := List.mem_map.1 hfirst
      obtain ⟨rfl, rfl⟩ := Prod.mk.inj hsame
      refine ⟨List.mem_cons_self, state.collapse, rest.isEmpty, state.x, setting.pageHeight - state.y, ?_⟩
      rw [Option.mem_toList, TextState.run?, hpending, String.empty_append] at hrun
      split at hrun
      · cases hrun
      · exact (Option.some.inj hrun).symm
    · -- Nothing is pending where the next stretch begins.
      obtain ⟨hmem, hrun⟩ := ih (by rw [TextState.pending_movedBy, TextState.pending_behind]) hrest
      exact ⟨List.mem_cons_of_mem _ hmem, hrun⟩

/-- A stretch comes to one run at most. -/
theorem map_fst_typeset_sublist (setting : Setting α) (base : Frame α) (state : TextState α)
    (stretches : List Stretch) :
    ((typeset setting base state stretches).map Prod.fst).Sublist stretches := by
  induction stretches generalizing state with
  | nil => exact .slnil
  | cons stretch rest ih =>
    rw [typeset, List.map_append, List.map_map]
    let frame := base.within setting stretch.around
    let filled := { state with pending := state.pending ++ stretch.text }
    cases filled.run? setting frame.style rest.isEmpty with
    | none => exact (ih _).cons stretch
    | some run => exact (ih _).cons_cons stretch

/-! ## The stretches of the content of a text -/

/-- The stretches of the content of a text, from inside some of its elements. -/
def ofContent : (around : List StartTag) → List MarkupEvent → List Stretch
  | around, [] => [⟨[], around, none⟩]
  | around, .text data :: rest => addPiece (data, around) (ofContent around rest)
  | around, .startTag name attributes :: rest =>
    let inner := ofContent (⟨name, attributes⟩ :: around) rest
    if ElementKind.ofName name = .span then ⟨[], around, some attributes⟩ :: inner else inner
  | around, .endTag _ :: rest =>
    let outer := ofContent around.tail rest
    if around.head?.map StartTag.kind = some .span then ⟨[], around, none⟩ :: outer else outer

theorem ofContent_text (around : List StartTag) (data : String) (rest : List MarkupEvent) :
    ofContent around (.text data :: rest) = addPiece (data, around) (ofContent around rest) := by
  rw [ofContent.eq_def]

theorem ofContent_startTag (around : List StartTag) (name : String) (attributes : Attributes)
    (rest : List MarkupEvent) :
    let tag : StartTag := ⟨name, attributes⟩
    ofContent around (.startTag name attributes :: rest) =
      if tag.kind = .span then ⟨[], around, some attributes⟩ :: ofContent (tag :: around) rest
      else ofContent (tag :: around) rest := by
  intro tag
  rw [ofContent.eq_def]
  rfl

theorem ofContent_endTag (tag : StartTag) (around : List StartTag) (name : String) (rest : List MarkupEvent) :
    ofContent (tag :: around) (.endTag name :: rest) =
      if tag.kind = .span then ⟨[], tag :: around, none⟩ :: ofContent around rest else ofContent around rest := by
  rw [ofContent.eq_def]
  simp

theorem ofContent_ne_nil (around : List StartTag) (content : List MarkupEvent) : ofContent around content ≠ [] := by
  induction content generalizing around with
  | nil => exact List.cons_ne_nil _ _
  | cons event rest ih =>
    cases event with
    | text data =>
      obtain ⟨first, others, hrest⟩ := List.exists_cons_of_ne_nil (ih around)
      rw [ofContent, hrest]
      exact List.cons_ne_nil _ _
    | startTag name attributes =>
      rw [ofContent]
      split
      · exact List.cons_ne_nil _ _
      · exact ih _
    | endTag name =>
      rw [ofContent]
      split
      · exact List.cons_ne_nil _ _
      · exact ih _

theorem isEmpty_ofContent (around : List StartTag) (content : List MarkupEvent) :
    (ofContent around content).isEmpty = false :=
  List.isEmpty_eq_false_iff.2 (ofContent_ne_nil around content)

/-- Pieces do not change where stretches end. -/
theorem of_mem_addPiece {piece : String × List StartTag} {stretches : List Stretch} {stretch : Stretch}
    (h : stretch ∈ addPiece piece stretches) :
    ∃ other ∈ stretches, stretch.around = other.around ∧ stretch.begins = other.begins := by
  cases stretches with
  | nil => cases h
  | cons first rest =>
    obtain rfl | hrest := List.mem_cons.1 h
    · exact ⟨first, List.mem_cons_self, rfl, rfl⟩
    · exact ⟨stretch, List.mem_cons_of_mem _ hrest, rfl, rfl⟩

/-- A stretch ends right inside an element that begins in the content, or that the content is in. -/
theorem around_of_mem_ofContent {P : List StartTag → Prop} {around : List StartTag} {content : List MarkupEvent}
    (haround : ∀ outer, outer <:+ around → P outer)
    (hcontent : ∀ lineage ∈ MarkupEvent.lineages around content, P lineage) :
    ∀ stretch ∈ ofContent around content, P stretch.around := by
  induction content generalizing around with
  | nil => exact List.forall_mem_singleton.2 (haround around List.suffix_rfl)
  | cons event rest ih =>
    cases event with
    | text data =>
      intro stretch hstretch
      rw [ofContent_text] at hstretch
      obtain ⟨other, hother, hsame, -⟩ := of_mem_addPiece hstretch
      exact hsame ▸ ih haround hcontent other hother
    | startTag name attributes =>
      let tag : StartTag := ⟨name, attributes⟩
      obtain ⟨htag, hrest⟩ := List.forall_mem_cons.1 hcontent
      have hinner : ∀ stretch ∈ ofContent (tag :: around) rest, P stretch.around := by
        refine ih (fun outer houter => ?_) hrest
        obtain rfl | houter := List.suffix_cons_iff.1 houter
        · exact htag
        · exact haround outer houter
      rw [ofContent_startTag]
      split
      · exact List.forall_mem_cons.2 ⟨haround around List.suffix_rfl, hinner⟩
      · exact hinner
    | endTag name =>
      have houter : ∀ stretch ∈ ofContent around.tail rest, P stretch.around :=
        ih (fun outer houter => haround outer (houter.trans (List.tail_suffix around))) hcontent
      rw [ofContent]
      split
      · exact List.forall_mem_cons.2 ⟨haround around List.suffix_rfl, houter⟩
      · exact houter

/-- A stretch before a span ends at the start tag of one. -/
theorem begins_of_mem_ofContent {around : List StartTag} {content : List MarkupEvent} {stretch : Stretch}
    (hstretch : stretch ∈ ofContent around content) {attributes : Attributes}
    (hbegins : stretch.begins = some attributes) :
    ∃ name, .startTag name attributes ∈ content ∧ ElementKind.ofName name = .span := by
  induction content generalizing around stretch with
  | nil =>
    obtain rfl := List.mem_singleton.1 hstretch
    cases hbegins
  | cons event rest ih =>
    have hrest {around : List StartTag} {stretch : Stretch} (hstretch : stretch ∈ ofContent around rest)
        (hbegins : stretch.begins = some attributes) :
        ∃ name, .startTag name attributes ∈ event :: rest ∧ ElementKind.ofName name = .span := by
      obtain ⟨name, hname, hspan⟩ := ih hstretch hbegins
      exact ⟨name, List.mem_cons_of_mem _ hname, hspan⟩
    cases event with
    | text data =>
      rw [ofContent_text] at hstretch
      obtain ⟨other, hother, -, hsame⟩ := of_mem_addPiece hstretch
      exact hrest hother (hsame ▸ hbegins)
    | startTag name own =>
      rw [ofContent_startTag] at hstretch
      split at hstretch
      next hspan =>
        obtain rfl | hinner := List.mem_cons.1 hstretch
        · obtain rfl := Option.some.inj hbegins
          exact ⟨name, List.mem_cons_self, hspan⟩
        · exact hrest hinner hbegins
      next => exact hrest hstretch hbegins
    | endTag name =>
      rw [ofContent] at hstretch
      split at hstretch
      · obtain rfl | houter := List.mem_cons.1 hstretch
        · cases hbegins
        · exact hrest houter hbegins
      · exact hrest hstretch hbegins

/-- What is pending is laid out where a stretch ends. -/
theorem laid_cons (setting : Setting α) (base : Frame α) (state : TextState α) (around : List StartTag)
    (begins : Option Attributes) (rest : List Stretch) :
    let frame := base.within setting around
    let behind := state.behind setting frame.style rest.isEmpty
    laid setting base state (⟨[], around, begins⟩ :: rest) =
      (state.run? setting frame.style rest.isEmpty).toList.map (frame, ·) ++
        laid setting base (behind.movedBy setting frame begins) rest := by
  intro frame behind
  have hfilled : { state with pending := state.pending ++ text ⟨[], around, begins⟩ } = state := by
    have hpending : state.pending ++ text ⟨[], around, begins⟩ = state.pending := String.append_empty
    rw [hpending]
  rw [laid, laid, typeset, hfilled, List.map_append, List.map_map]
  rfl

end Stretch

end SvgPage
