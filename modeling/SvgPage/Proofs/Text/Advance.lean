import Mathlib
import SvgPage.Proofs.Numeric.Measured
import SvgPage.Proofs.Text.Lays
import SvgPage.Proofs.Traversal.Run

namespace SvgPage

variable {α : Type} [Scalar α]

/-! ## Where runs lie -/

namespace TextAnchor

/-- How many halves of a run lie before its position, in the direction of its text. -/
def halves : TextAnchor → Nat
  | start => 0
  | middle => 1
  | stop => 2

theorem halves_eq_zero_iff (anchor : TextAnchor) : anchor.halves = 0 ↔ anchor = start := by
  cases anchor <;> simp [halves]

end TextAnchor

namespace TextRun

/-- The left edge of a run, where it is written. -/
def left (run : TextRun α) : α := run.x - run.shift

example (run : TextRun α) :
    run.operators = [.beginText, .font run.font.size, .textPosition run.left run.y, .showText run.text, .endText] :=
  rfl

def right (run : TextRun α) : α := run.left + run.width

/-- The edge at which a run begins, in the direction of its text. -/
def beginning (run : TextRun α) : α :=
  match run.direction with
  | .leftToRight => run.left
  | .rightToLeft => run.right

def ending (run : TextRun α) : α :=
  match run.direction with
  | .leftToRight => run.right
  | .rightToLeft => run.left

/-- The second of two runs begins where the first one ends. -/
def Meets (first second : TextRun α) : Prop := second.beginning = first.ending ∧ second.y = first.y

instance [DecidableEq α] (first second : TextRun α) : Decidable (first.Meets second) :=
  inferInstanceAs (Decidable (_ ∧ _))

/-- The second of two runs has the position behind the first one. -/
def Follows (first second : TextRun α) : Prop := second.x = first.x + first.advance ∧ second.y = first.y

section Exact

variable [Scalar.Exact α] [Scalar.Measured α] {first second : TextRun α}

open Scalar.Measured

theorem toReal_advance (run : TextRun α) :
    toReal run.advance =
      match run.direction with
      | .leftToRight => toReal run.width
      | .rightToLeft => -toReal run.width := by
  have hneg : toReal (-run.width) = -toReal run.width := by
    have hsum := toReal_add run.width (-run.width)
    rw [Scalar.Exact.add_neg, toReal_zero] at hsum
    exact (neg_eq_of_add_eq_zero_right hsum.symm).symm
  rw [advance]
  cases run.direction with
  | leftToRight => rfl
  | rightToLeft => exact hneg

theorem toReal_beginning (run : TextRun α) :
    toReal run.beginning = toReal run.x - run.anchor.halves / 2 * toReal run.advance := by
  have htwo : toReal (2 : α) = 2 := toReal_ofNat 2
  have hhalf : toReal (run.width / 2) = toReal run.width / 2 := by
    rw [toReal_div _ _ (by rw [htwo]; norm_num), htwo]
  rw [toReal_advance, beginning, right, left, shift]
  cases run.direction <;> cases run.anchor <;>
    (simp only [TextAnchor.halves, toReal_sub, toReal_add, hhalf, toReal_zero, Nat.cast_ofNat, Nat.cast_zero,
      Nat.cast_one]; ring)

theorem toReal_ending (run : TextRun α) : toReal run.ending = toReal run.beginning + toReal run.advance := by
  rw [toReal_advance, beginning, ending, right]
  cases run.direction with
  | leftToRight => exact toReal_add _ _
  | rightToLeft => rw [toReal_add, add_neg_cancel_right]

/-- Of two runs in one alignment, the second begins where the first one ends just if they begin at their positions
    or are equally long. -/
theorem Follows.meets_iff (h : first.Follows second) (hanchor : second.anchor = first.anchor)
    (hdirection : second.direction = first.direction) :
    first.Meets second ↔ first.anchor = .start ∨ first.width = second.width := by
  have hbeginning : second.beginning = first.ending ↔
      first.anchor.halves * (toReal second.advance - toReal first.advance) = 0 := by
    rw [← toReal_injective.eq_iff, toReal_ending, toReal_beginning, toReal_beginning, h.1, toReal_add, hanchor]
    exact ⟨fun heq => by linarith, fun heq => by linarith⟩
  have hwidth : toReal second.width = toReal first.width ↔ first.width = second.width :=
    toReal_injective.eq_iff.trans eq_comm
  have hadvance : toReal second.advance - toReal first.advance = 0 ↔ first.width = second.width := by
    rw [sub_eq_zero, toReal_advance, toReal_advance, hdirection]
    cases first.direction with
    | leftToRight => exact hwidth
    | rightToLeft => exact neg_inj.trans hwidth
  rw [Meets, and_iff_left h.2, hbeginning, mul_eq_zero, Nat.cast_eq_zero, TextAnchor.halves_eq_zero_iff, hadvance]

end Exact

end TextRun

/-- Whether a style aligns text in a way. -/
def Style.IsAligned (style : Style α) (anchor : TextAnchor) (direction : TextDirection) : Prop :=
  .read (style.text .textAnchor) = anchor ∧ .read (style.text .direction) = direction

instance (style : Style α) (anchor : TextAnchor) (direction : TextDirection) :
    Decidable (style.IsAligned anchor direction) := inferInstanceAs (Decidable (_ ∧ _))

namespace Attributes

/-- Whether attributes leave a text where it is. -/
def keepPlace (attributes : Attributes) : Bool :=
  ["x", "y", "dx", "dy"].all fun name => (attributes.get? name).isNone

end Attributes

/-- Whether a tag is none of a span that moves the text. -/
def MarkupEvent.keepsPlace : MarkupEvent → Bool
  | .startTag name attributes => ElementKind.ofName name ≠ .span || attributes.keepPlace
  | _ => true

namespace TextState

variable (setting : Setting α) (state : TextState α) [Scalar.Measured α]

omit [Scalar.Measured α] in
theorem place_of_run? {setting : Setting α} {state : TextState α} {style : Style α} {atEnd : Bool} {run : TextRun α}
    (h : state.run? setting style atEnd = some run) : run.x = state.x ∧ run.y = setting.pageHeight - state.y := by
  rw [run?] at h
  split at h
  · cases h
  · cases h
    exact ⟨rfl, rfl⟩

/-- A span without a position of its own leaves the text where it is. -/
theorem moved_of_keepPlace {attributes : Attributes} (h : attributes.keepPlace = true) (frame : Frame α) :
    state.moved setting frame attributes = state := by
  have hmissing {name : String} (hname : name ∈ ["x", "y", "dx", "dy"]) : attributes.get? name = none :=
    Option.isNone_iff_eq_none.1 (List.all_eq_true.1 h name hname)
  have hposition {name : String} (hname : name ∈ ["x", "y", "dx", "dy"]) (reference : α)
      (context : Css.LengthContext α) : Document.readPosition? attributes name reference context = none := by
    rw [Document.readPosition?, hmissing hname]
    rfl
  have hshift {name : String} (hname : name ∈ ["x", "y", "dx", "dy"]) :
      (Document.readShift attributes name : α) = 0 := by
    have hempty : Text.splitList "" = [""] := by decide +kernel
    rw [Document.readShift, hmissing hname, Option.getD_none, Css.readNumberList, hempty]
    rfl
  have hzero (x : α) : x + 0 = x := by
    apply Scalar.Measured.toReal_injective
    rw [Scalar.Measured.toReal_add, Scalar.Measured.toReal_zero, add_zero]
  simp [moved, hposition, hshift, hzero]

end TextState

namespace Stretch

variable [Scalar.Measured α] (setting : Setting α) (base : Frame α)

/-- The first run has the position of the text, and each of the others the position behind the one before it. -/
theorem typeset_follows {state : TextState α} {stretches : List Stretch}
    (hkeep : ∀ stretch ∈ stretches, ∀ attributes ∈ stretch.begins, attributes.keepPlace = true) :
    let runs := (typeset setting base state stretches).map Prod.snd
    (∀ run ∈ runs.head?, run.x = state.x ∧ run.y = setting.pageHeight - state.y) ∧
      runs.IsChain TextRun.Follows := by
  induction stretches generalizing state with
  | nil => exact ⟨nofun, .nil⟩
  | cons stretch rest ih =>
    obtain ⟨hfirst, hrest⟩ := List.forall_mem_cons.1 hkeep
    let frame := base.within setting stretch.around
    let filled := { state with pending := state.pending ++ stretch.text }
    let behind := filled.behind setting frame.style rest.isEmpty
    have hnext : behind.movedBy setting frame stretch.begins = behind := by
      cases hbegins : stretch.begins with
      | none => rfl
      | some attributes => exact behind.moved_of_keepPlace setting (hfirst attributes hbegins) frame
    obtain ⟨hhead, hchain⟩ := @ih behind hrest
    intro runs
    have hruns : runs = (filled.run? setting frame.style rest.isEmpty).toList ++
        (typeset setting base behind rest).map Prod.snd := by
      simp only [runs, typeset]
      rw [hnext, List.map_append, List.map_map]
      exact congrArg (· ++ _) (List.map_id' _)
    rw [hruns]
    cases hrun : filled.run? setting frame.style rest.isEmpty with
    | none =>
      have hbehind : behind = { filled with pending := "" } := by
        simp only [behind, TextState.behind, hrun]
      rw [hbehind] at hhead hchain ⊢
      exact ⟨hhead, hchain⟩
    | some run =>
      obtain ⟨hx, hy⟩ := TextState.place_of_run? hrun
      have hbehind : behind.x = state.x + run.advance ∧ behind.y = state.y := by
        simp only [behind, TextState.behind, hrun, filled, and_self]
      refine ⟨fun other hother => ?_, hchain.cons fun second hsecond => ?_⟩
      · obtain rfl : run = other := Option.some.inj hother
        exact ⟨hx, hy⟩
      · obtain ⟨hsecondX, hsecondY⟩ := hhead second hsecond
        exact ⟨by rw [hsecondX, hbehind.1, hx], by rw [hsecondY, hbehind.2, hy]⟩

/-- Runs that come from the same alignment as all others of a text meet if they begin at their positions or are
    equally long. -/
theorem typeset_meets [Scalar.Exact α] {state : TextState α} {stretches : List Stretch} {anchor : TextAnchor}
    {direction : TextDirection} (hpending : state.pending = "")
    (hkeep : ∀ stretch ∈ stretches, ∀ attributes ∈ stretch.begins, attributes.keepPlace = true)
    (halign : ∀ stretch ∈ stretches, (base.within setting stretch.around).style.IsAligned anchor direction) :
    ((typeset setting base state stretches).map Prod.snd).IsChain fun first second =>
      first.Meets second ↔ anchor = .start ∨ first.width = second.width := by
  have haligned : ∀ run ∈ (typeset setting base state stretches).map Prod.snd,
      run.anchor = anchor ∧ run.direction = direction := by
    intro run hrun
    obtain ⟨⟨stretch, run⟩, hmem, rfl⟩ := List.mem_map.1 hrun
    obtain ⟨hstretch, _, _, _, _, rfl⟩ := of_mem_typeset hpending hmem
    exact halign stretch hstretch
  refine (typeset_follows setting base hkeep).2.imp_of_mem_imp fun first second hfirst hsecond hfollows => ?_
  obtain ⟨hanchor, hdirection⟩ := haligned first hfirst
  obtain ⟨hanchor', hdirection'⟩ := haligned second hsecond
  rw [hfollows.meets_iff (hanchor'.trans hanchor.symm) (hdirection'.trans hdirection.symm), hanchor]

end Stretch

namespace Exact

/-- The content of a text with a span of more characters than are in front of it. -/
def spans : List MarkupEvent := [.text "a", .startTag "tspan" ⟨[]⟩, .text "bcd", .endTag "tspan"]

end Exact

namespace Draw

variable {setting : Setting α} {embed : Option (Embedding α)} {drawing : Drawing α} {tag : StartTag}
  [Scalar.Exact α] [Scalar.Measured α]

/-- The runs of a text whose spans neither move nor align it differently lie side by side, if they begin at their
    positions; if not, those that are equally long do, and no others. -/
theorem text_meets {content : List MarkupEvent} (last : String) (hroot : drawing.document.rootSeen = true)
    (hdrawing : drawing.document.isDrawing = true) (hkind : tag.kind = .text)
    (htags : Tag.openAfter [] (MarkupEvent.tags content) = some [])
    (hcontent : ∀ event ∈ content, event.joinsText = true)
    (hkeep : ∀ event ∈ content, event.keepsPlace = true) :
    let base := drawing.document.frame.ofText setting tag.attributes
    let anchor := TextAnchor.read (base.style.text .textAnchor)
    let direction := TextDirection.read (base.style.text .direction)
    (∀ around ∈ MarkupEvent.lineages [] content, (base.within setting around).style.IsAligned anchor direction) →
    ∃ after laid,
      events setting embed (.startTag tag.name tag.attributes :: (content ++ [.endTag last])) drawing =
          (.ok (), after) ∧
        LaysTo laid drawing after ∧
        (laid.map Prod.snd).IsChain fun first second =>
          first.Meets second ↔ anchor = .start ∨ first.width = second.width := by
  intro base anchor direction halign
  obtain ⟨after, hdrawn, -, hlays⟩ := events_text setting embed last hroot hdrawing hkind htags hcontent
  refine ⟨after, _, hdrawn, hlays, ?_⟩
  rw [Stretch.laid, List.map_map]
  have hstill : ∀ stretch ∈ Stretch.ofContent [] content, ∀ attributes ∈ stretch.begins,
      attributes.keepPlace = true := by
    intro stretch hstretch attributes hbegins
    obtain ⟨name, hname, hspan⟩ := Stretch.begins_of_mem_ofContent hstretch hbegins
    have hevent := hkeep _ hname
    simpa [MarkupEvent.keepsPlace, hspan] using hevent
  have hself : ∀ outer, outer <:+ ([] : List StartTag) →
      (base.within setting outer).style.IsAligned anchor direction := by
    intro outer houter
    rw [List.suffix_nil.1 houter]
    exact ⟨rfl, rfl⟩
  exact Stretch.typeset_meets setting base rfl hstill (Stretch.around_of_mem_ofContent hself halign)

/-- The runs of a text in two spans meet where it begins at its position. -/
theorem text_meets_at_start :
    let drawing := (Draw.events Exact.setting none [Exact.root] (.initial Exact.setting {})).2
    let text : StartTag := ⟨"text", ⟨[("direction", "rtl")]⟩⟩
    ∃ after laid,
      events Exact.setting none (.startTag text.name text.attributes :: (Exact.spans ++ [.endTag "text"])) drawing =
          (.ok (), after) ∧
        LaysTo laid drawing after ∧ (laid.map Prod.snd).IsChain TextRun.Meets := by
  intro drawing text
  obtain ⟨after, laid, hdrawn, hlays, hmeets⟩ := @text_meets Rat _ Exact.setting none drawing text _ _ Exact.spans
    "text" (by decide +kernel) (by decide +kernel) (by decide) (by decide) (by decide) (by decide) (by decide +kernel)
  exact ⟨after, laid, hdrawn, hlays, hmeets.imp fun _ _ h => h.2 (.inl (by decide +kernel))⟩

/-- They do not where its middle is there. -/
theorem text_meets_not_in_middle :
    let drawing := (Draw.events Exact.setting none [Exact.root] (.initial Exact.setting {})).2
    let text : StartTag := ⟨"text", ⟨[("text-anchor", "middle")]⟩⟩
    let base := drawing.document.frame.ofText Exact.setting text.attributes
    let after := (Draw.events Exact.setting none
      (.startTag text.name text.attributes :: (Exact.spans ++ [.endTag text.name])) drawing).2
    (∀ event ∈ Exact.spans, event.keepsPlace = true) ∧
      (∀ around ∈ [] :: MarkupEvent.lineages [] Exact.spans,
        (base.within Exact.setting around).style.IsAligned .middle .leftToRight) ∧
      drawing.ledger.runs.toList = [] ∧ ¬after.ledger.runs.toList.IsChain TextRun.Meets := by
  decide +kernel

end Draw

end SvgPage
