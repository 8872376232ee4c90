import SvgPage.Proofs.Exact
import SvgPage.Proofs.Text.Blank
import SvgPage.Proofs.Text.Lays
import SvgPage.Proofs.Traversal.Run

namespace SvgPage

namespace Text

theorem isBlank_space : isBlank ' ' = true := by decide

/-- Characters with a space in place of each run of blanks, and nothing in place of one at the start that
    follows a space. -/
def squeeze : (spaced : Bool) → List Char → List Char
  | _, [] => []
  | spaced, c :: rest =>
    if isBlank c then (if spaced then squeeze true rest else ' ' :: squeeze true rest)
    else c :: squeeze false rest

/-- Whether a blank comes last, where one came last before the characters or did not. -/
def blankAfter : (spaced : Bool) → List Char → Bool
  | spaced, [] => spaced
  | _, c :: rest => blankAfter (isBlank c) rest

section Steps

variable {c : Char} {rest : List Char}

theorem squeeze_blank (hc : isBlank c = true) (spaced : Bool) :
    squeeze spaced (c :: rest) = if spaced then squeeze true rest else ' ' :: squeeze true rest := by
  rw [squeeze, if_pos hc]

theorem squeeze_visible (hc : isBlank c = false) (spaced : Bool) :
    squeeze spaced (c :: rest) = c :: squeeze false rest := by
  rw [squeeze, if_neg (Bool.eq_false_iff.1 hc)]

end Steps

theorem squeeze_append (spaced : Bool) (first second : List Char) :
    squeeze spaced (first ++ second) = squeeze spaced first ++ squeeze (blankAfter spaced first) second := by
  induction first generalizing spaced with
  | nil => rfl
  | cons c rest ih =>
    rw [List.cons_append, blankAfter]
    cases hc : isBlank c with
    | true =>
      rw [squeeze_blank hc, squeeze_blank hc, ih]
      cases spaced <;> rfl
    | false => rw [squeeze_visible hc, squeeze_visible hc, ih, List.cons_append]

theorem blankAfter_append (spaced : Bool) (first second : List Char) :
    blankAfter spaced (first ++ second) = blankAfter (blankAfter spaced first) second := by
  induction first generalizing spaced with
  | nil => rfl
  | cons c rest ih => exact ih _

theorem blankAfter_of_ne_nil {cs : List Char} (h : cs ≠ []) (spaced : Bool) :
    blankAfter spaced cs = cs.getLast?.any isBlank := by
  obtain ⟨init, last, rfl⟩ := (List.eq_nil_or_concat' cs).resolve_left h
  rw [blankAfter_append, List.getLast?_concat]
  rfl

theorem blankAfter_of_all {cs : List Char} (h : cs.all isBlank = true) : blankAfter true cs = true := by
  induction cs with
  | nil => rfl
  | cons c rest ih =>
    obtain ⟨hc, hrest⟩ := Bool.and_eq_true_iff.1 h
    rw [blankAfter, hc]
    exact ih hrest

/-- One more character is kept, unless it is a blank after another one. -/
theorem squeeze_concat (spaced : Bool) (init : List Char) (last : Char) :
    squeeze spaced (init ++ [last]) = squeeze spaced init ++
      if isBlank last then (if blankAfter spaced init then [] else [' ']) else [last] := by
  rw [squeeze_append]
  cases hlast : isBlank last with
  | true => rw [squeeze_blank hlast]; rfl
  | false => rw [squeeze_visible hlast]; rfl

theorem dropWhile_squeeze (spaced : Bool) (cs : List Char) :
    (squeeze spaced cs).dropWhile isBlank = squeeze true cs := by
  induction cs generalizing spaced with
  | nil => rfl
  | cons c rest ih =>
    cases hc : isBlank c with
    | true =>
      rw [squeeze_blank hc, squeeze_blank hc, if_pos rfl]
      cases spaced with
      | true => exact ih true
      | false =>
        rw [if_neg Bool.false_ne_true, List.dropWhile_cons_of_pos isBlank_space]
        exact ih true
    | false =>
      rw [squeeze_visible hc, squeeze_visible hc, List.dropWhile_cons_of_neg (Bool.eq_false_iff.1 hc)]

theorem all_squeeze (spaced : Bool) (cs : List Char) : (squeeze spaced cs).all isBlank = cs.all isBlank := by
  induction cs generalizing spaced with
  | nil => rfl
  | cons c rest ih =>
    cases hc : isBlank c with
    | true =>
      rw [squeeze_blank hc, List.all_cons, hc, Bool.true_and]
      cases spaced with
      | true => exact ih true
      | false =>
        rw [if_neg Bool.false_ne_true, List.all_cons, isBlank_space, Bool.true_and]
        exact ih true
    | false => rw [squeeze_visible hc, List.all_cons, List.all_cons, hc, Bool.false_and, Bool.false_and]

/-! ## What is left at the end -/

/-- Where nothing is left of the characters, a blank comes last after them just if one did before them. -/
theorem blankAfter_of_squeeze_eq_nil {spaced : Bool} {cs : List Char} (h : squeeze spaced cs = []) :
    blankAfter spaced cs = spaced := by
  induction cs with
  | nil => rfl
  | cons c rest ih =>
    cases hc : isBlank c with
    | false =>
      rw [squeeze_visible hc] at h
      cases h
    | true =>
      rw [squeeze_blank hc] at h
      cases spaced with
      | false => cases h
      | true =>
        rw [blankAfter, hc]
        exact ih h

/-- What is left of the characters ends in a space just if a blank comes last. -/
theorem getLast?_squeeze {spaced : Bool} {cs : List Char} (h : squeeze spaced cs ≠ []) :
    ((squeeze spaced cs).getLast? == some ' ') = blankAfter spaced cs := by
  induction cs using List.reverseRecOn with
  | nil => exact absurd rfl h
  | append_singleton init last ih =>
    have hbehind : blankAfter spaced (init ++ [last]) = isBlank last := blankAfter_append spaced init [last]
    rw [squeeze_concat] at h ⊢
    rw [hbehind]
    cases hlast : isBlank last with
    | false =>
      have hvisible : last ≠ ' ' := by
        rintro rfl
        cases hlast
      simpa using hvisible
    | true =>
      cases hspaced : blankAfter spaced init with
      | false => simp
      | true =>
        rw [hlast, hspaced] at h
        simp only [if_true, List.append_nil] at h ⊢
        exact (ih h).trans hspaced

/-- There is one space at most at the end: where a blank comes last, after characters that are none. -/
theorem squeeze_eq_dropTail_append (cs : List Char) :
    squeeze true cs = dropTail isBlank (squeeze true cs) ++
      if blankAfter true cs && !cs.all isBlank then [' '] else [] := by
  induction cs using List.reverseRecOn with
  | nil => rfl
  | append_singleton init last ih =>
    have hbehind : blankAfter true (init ++ [last]) = isBlank last := blankAfter_append true init [last]
    rw [squeeze_concat, hbehind, dropTail_append]
    cases hlast : isBlank last with
    | false =>
      have hkept : dropTail isBlank [last] = [last] := by simp [dropTail, hlast]
      simp [hlast, hkept]
    | true =>
      cases hspaced : blankAfter true init with
      | true =>
        rw [hspaced] at ih
        simpa [hlast] using ih
      | false =>
        have hsome : init.all isBlank = false := by
          rw [Bool.eq_false_iff]
          exact fun hall => Bool.false_ne_true (hspaced.symm.trans (blankAfter_of_all hall))
        rw [hspaced] at ih
        simpa [hlast, hsome, isBlank_space] using ih

/-- The blanks at the end of characters of which the last ones have been squeezed on their own: where those are
    blanks alone, what is left of the blanks before them stays. -/
theorem squeeze_append_dropTail (first last : List Char) :
    squeeze true first ++ dropTail isBlank (squeeze (blankAfter true first) last) =
      dropTail isBlank (squeeze true (first ++ last)) ++
        if last.all isBlank && (blankAfter true first && !first.all isBlank) then [' '] else [] := by
  rw [squeeze_append, dropTail_append, all_squeeze]
  cases hlast : last.all isBlank with
  | false => simp
  | true =>
    rw [dropTail_of_all ((all_squeeze ..).trans hlast), List.append_nil, if_pos rfl, Bool.true_and]
    exact squeeze_eq_dropTail_append first

/-! ## Texts -/

/-- Blanks in front of the characters that follow a space make no difference. -/
theorem squeeze_true (cs : List Char) : squeeze true cs = squeeze false (cs.dropWhile isBlank) := by
  induction cs with
  | nil => rfl
  | cons c rest ih =>
    cases hc : isBlank c with
    | true => rw [squeeze_blank hc, if_pos rfl, List.dropWhile_cons_of_pos hc, ih]
    | false => rw [List.dropWhile_cons_of_neg (Bool.eq_false_iff.1 hc), squeeze_visible hc, squeeze_visible hc]

theorem squeeze_word {word : List Char} (h : ∀ c ∈ word, isBlank c = false) (rest : List Char) :
    squeeze false (word ++ rest) = word ++ squeeze false rest := by
  induction word with
  | nil => rfl
  | cons c word ih =>
    obtain ⟨hc, hword⟩ := List.forall_mem_cons.1 h
    rw [List.cons_append, squeeze_visible hc, ih hword, List.cons_append]

theorem splitRuns_ne_nil (separates : Char → Bool) (cs : List Char) : splitRuns separates cs ≠ [] := by
  rw [splitRuns]
  split <;> exact List.cons_ne_nil _ _

/-- Joining the words between blanks by spaces comes to the same. -/
theorem intercalate_splitRuns (cs : List Char) : [' '].intercalate (splitRuns isBlank cs) = squeeze false cs := by
  have hword (cs : List Char) : ∀ c ∈ cs.takeWhile (!isBlank ·), isBlank c = false := fun c hc => by
    simpa using List.mem_takeWhile_imp hc
  induction cs using splitRuns.induct isBlank with
  | case1 cs hrest =>
    have hsplit : splitRuns isBlank cs = [cs.takeWhile (!isBlank ·)] := by
      rw [splitRuns]
      split
      · rfl
      next hcons => cases hrest.symm.trans hcons
    have hsame := squeeze_word (hword cs) (cs.dropWhile (!isBlank ·))
    rw [List.takeWhile_append_dropWhile, hrest, squeeze, List.append_nil] at hsame
    rw [hsplit, List.intercalate_singleton, hsame]
  | case2 cs separator rest hrest _ ih =>
    have hsplit : splitRuns isBlank cs =
        cs.takeWhile (!isBlank ·) :: splitRuns isBlank (rest.dropWhile isBlank) := by
      rw [splitRuns]
      split
      next hnil => cases hrest.symm.trans hnil
      next hcons =>
        cases hrest.symm.trans hcons
        rfl
    have hseparator : isBlank separator = true := by
      have hhead := List.head?_dropWhile_not (!isBlank ·) cs
      rw [hrest] at hhead
      simpa using hhead
    have hsame := squeeze_word (hword cs) (cs.dropWhile (!isBlank ·))
    rw [List.takeWhile_append_dropWhile, hrest, squeeze_blank hseparator, if_neg Bool.false_ne_true,
      squeeze_true] at hsame
    rw [hsplit, List.intercalate_cons_of_ne_nil (splitRuns_ne_nil isBlank _), ih, hsame, List.append_assoc]
    rfl

theorem toList_collapseBlanks (s : String) : (collapseBlanks s).toList = squeeze false s.toList := by
  have hwords : (splitBlanks s).map String.toList = splitRuns isBlank s.toList := by
    rw [splitBlanks, List.map_map]
    exact (List.map_congr_left fun _ _ => String.toList_ofList).trans (List.map_id' _)
  rw [collapseBlanks, String.toList_intercalate, hwords]
  exact intercalate_splitRuns s.toList

theorem toList_trim_collapseBlanks (s : String) :
    (trim (collapseBlanks s)).toList = dropTail isBlank (squeeze true s.toList) := by
  rw [trim, trimEnd, trimStart, String.toList_ofList, String.toList_ofList, toList_collapseBlanks,
    dropWhile_squeeze]

end Text

/-! ## The characters of content -/

open Text (isBlank dropTail squeeze blankAfter)

namespace MarkupEvent

def characters : MarkupEvent → String
  | .text characters => characters
  | _ => ""

/-- The characters of events, one after the other. -/
def data (events : List MarkupEvent) : String := String.join (events.map characters)

def isSpanTag : MarkupEvent → Bool
  | .startTag name _ | .endTag name => ElementKind.ofName name = .span
  | .text _ => false

/-- The characters of a text in the parts that the tags of its spans leave. -/
def spanParts (content : List MarkupEvent) : List String := (content.splitOnP isSpanTag).map data

/-- Whether a space is left at the end of a text. Blanks at the end are dropped in the last part alone: where that
    part has nothing else, one that comes last before it is kept. -/
def endsInSpace (content : List MarkupEvent) : Bool :=
  let parts := spanParts content
  let first := String.join parts.dropLast
  let last := parts.getLastD ""
  last.toList.all isBlank && (first.toList.getLast?.any isBlank && !first.toList.all isBlank)

theorem spanParts_of_isSpanTag {event : MarkupEvent} (h : event.isSpanTag = true) (rest : List MarkupEvent) :
    spanParts (event :: rest) = "" :: spanParts rest := by
  rw [spanParts, List.splitOnP_cons_eq_if_modifyHead, if_pos h, List.map_cons]
  rfl

theorem spanParts_cons {event : MarkupEvent} (h : event.isSpanTag = false) (rest : List MarkupEvent) :
    spanParts (event :: rest) = (spanParts rest).modifyHead (event.characters ++ ·) := by
  rw [spanParts, spanParts, List.splitOnP_cons_eq_if_modifyHead, if_neg (Bool.eq_false_iff.1 h)]
  cases rest.splitOnP isSpanTag with
  | nil => rfl
  | cons part parts =>
    have hdata : data (event :: part) = event.characters ++ data part := String.join_cons
    rw [List.modifyHead_cons, List.map_cons, List.map_cons, List.modifyHead_cons, hdata]

/-- Tags that are no span's do not count. -/
theorem spanParts_tag {event : MarkupEvent} (h : event.isSpanTag = false) (htag : event.characters = "")
    (rest : List MarkupEvent) : spanParts (event :: rest) = spanParts rest := by
  have hsame : (event.characters ++ ·) = id := by
    rw [htag]
    exact funext fun _ => String.empty_append
  rw [spanParts_cons h, hsame, List.modifyHead_id, id]

theorem join_spanParts (content : List MarkupEvent) : String.join (spanParts content) = data content := by
  induction content with
  | nil => rfl
  | cons event rest ih =>
    have hdata : data (event :: rest) = event.characters ++ data rest := String.join_cons
    cases hspan : event.isSpanTag with
    | true =>
      have htag : event.characters = "" := by
        cases event with
        | text => cases hspan
        | startTag | endTag => rfl
      rw [spanParts_of_isSpanTag hspan, String.join_cons, ih, hdata, htag]
    | false =>
      obtain ⟨part, parts, hparts⟩ := List.exists_cons_of_ne_nil
        (List.map_eq_nil_iff.not.2 (List.splitOnP_ne_nil isSpanTag rest))
      rw [spanParts_cons hspan, hdata, ← ih, spanParts, hparts, List.modifyHead_cons, String.join_cons,
        String.join_cons, String.append_assoc]

end MarkupEvent

theorem toList_visibleText (pending : String) (atStart atEnd : Bool) :
    (visibleText pending atStart atEnd).toList =
      let squeezed := squeeze atStart pending.toList
      if atEnd then dropTail isBlank squeezed else squeezed := by
  have hstarted : (if atStart then Text.trimStart (Text.collapseBlanks pending)
      else Text.collapseBlanks pending).toList = squeeze atStart pending.toList := by
    cases atStart with
    | false => exact Text.toList_collapseBlanks pending
    | true =>
      rw [if_pos rfl, Text.trimStart, String.toList_ofList, Text.toList_collapseBlanks, Text.dropWhile_squeeze]
  cases atEnd with
  | false => exact hstarted
  | true =>
    rw [visibleText, if_pos rfl, Text.trimEnd, String.toList_ofList, hstarted]
    rfl

variable {α : Type} [Scalar α]

/-- The characters of runs, one after the other. -/
def TextRun.joined (runs : List (TextRun α)) : String := String.join (runs.map TextRun.text)

omit [Scalar α] in
theorem TextRun.joined_append (first second : List (TextRun α)) :
    joined (first ++ second) = joined first ++ joined second := by
  rw [joined, List.map_append, String.join_append]
  rfl

namespace TextState

variable (setting : Setting α) (state : TextState α) (style : Style α)

theorem joined_run? (atEnd : Bool) :
    TextRun.joined (state.run? setting style atEnd).toList = visibleText state.pending state.collapse atEnd := by
  rw [run?]
  split
  next hempty => exact (String.isEmpty_iff.1 hempty).symm
  next => exact String.empty_append

/-- Inside a text it counts whether a blank has come last. -/
theorem collapse_behind :
    (state.behind setting style false).collapse = blankAfter state.collapse state.pending.toList := by
  have hvisible := toList_visibleText state.pending state.collapse false
  by_cases hempty : (visibleText state.pending state.collapse false).isEmpty = true
  · have hrun : state.run? setting style false = none := if_pos hempty
    rw [String.isEmpty_iff.1 hempty] at hvisible
    rw [behind, hrun]
    exact (Text.blankAfter_of_squeeze_eq_nil hvisible.symm).symm
  · have hrun : state.run? setting style false = some _ := if_neg hempty
    have hsqueezed : squeeze state.collapse state.pending.toList ≠ [] := fun hnil =>
      hempty (String.isEmpty_iff.2 (String.toList_eq_nil_iff.1 (hvisible.trans hnil)))
    rw [behind, hrun, ← Text.getLast?_squeeze hsqueezed]
    exact congrArg (fun cs : List Char => cs.getLast? == some ' ') hvisible

end TextState

namespace Stretch

theorem map_text_addPiece (piece : String × List StartTag) (stretches : List Stretch) :
    (addPiece piece stretches).map text = (stretches.map text).modifyHead (piece.1 ++ ·) := by
  cases stretches with
  | nil => rfl
  | cons stretch rest => exact congrArg (· :: rest.map text) String.join_cons

/-- The stretches of a text have the characters between the tags of its spans. -/
theorem map_text_ofContent {around : List StartTag} {content : List MarkupEvent}
    (htags : (Tag.openAfter (around.map StartTag.name) (MarkupEvent.tags content)).isSome = true) :
    (ofContent around content).map text = MarkupEvent.spanParts content := by
  induction content generalizing around with
  | nil => rfl
  | cons event rest ih =>
    cases event with
    | text characters => rw [ofContent_text, map_text_addPiece, ih htags, MarkupEvent.spanParts_cons rfl]; rfl
    | startTag name attributes =>
      let tag : StartTag := ⟨name, attributes⟩
      have hinner : (ofContent (tag :: around) rest).map text = MarkupEvent.spanParts rest := ih htags
      rw [ofContent_startTag]
      by_cases hspan : tag.kind = .span
      · have hevent : (MarkupEvent.startTag name attributes).isSpanTag = true := decide_eq_true hspan
        rw [if_pos hspan, MarkupEvent.spanParts_of_isSpanTag hevent, List.map_cons, hinner]
        rfl
      · have hevent : (MarkupEvent.startTag name attributes).isSpanTag = false := decide_eq_false hspan
        rw [if_neg hspan, MarkupEvent.spanParts_tag hevent rfl, hinner]
    | endTag name =>
      cases around with
      | nil => cases htags
      | cons tag around =>
        have hstop : (if name = tag.name then
            Tag.openAfter (around.map StartTag.name) (MarkupEvent.tags rest) else none).isSome = true := htags
        rw [ofContent_endTag]
        split at hstop
        next hname =>
          subst hname
          by_cases hspan : tag.kind = .span
          · have hevent : (MarkupEvent.endTag tag.name).isSpanTag = true := decide_eq_true hspan
            rw [if_pos hspan, MarkupEvent.spanParts_of_isSpanTag hevent, List.map_cons, ih hstop]
            rfl
          · have hevent : (MarkupEvent.endTag tag.name).isSpanTag = false := decide_eq_false hspan
            rw [if_neg hspan, MarkupEvent.spanParts_tag hevent rfl, ih hstop]
        next => cases hstop

section Typeset

variable (setting : Setting α) (base : Frame α) (state : TextState α)

/-- The characters that are shown of stretches. -/
def shown (stretches : List Stretch) : String :=
  TextRun.joined ((typeset setting base state stretches).map Prod.snd)

theorem shown_cons (stretch : Stretch) (rest : List Stretch) :
    let frame := base.within setting stretch.around
    let filled := { state with pending := state.pending ++ stretch.text }
    let behind := filled.behind setting frame.style rest.isEmpty
    shown setting base state (stretch :: rest) =
      visibleText filled.pending state.collapse rest.isEmpty ++
        shown setting base (behind.movedBy setting frame stretch.begins) rest := by
  intro frame filled behind
  have hrun := filled.joined_run? setting frame.style rest.isEmpty
  rw [shown, typeset, List.map_append, TextRun.joined_append, List.map_map, ← hrun]
  exact congrArg (· ++ _) (congrArg TextRun.joined (List.map_id' _))

variable {state}

/-- The runs of a text have its characters with a space in place of each run of blanks; of the last stretch, blanks
    that come last are dropped. -/
theorem toList_shown_concat (hpending : state.pending = "") (init : List Stretch) (last : Stretch) :
    let first := (joined init).toList
    (shown setting base state (init ++ [last])).toList =
      squeeze state.collapse first ++
        dropTail isBlank (squeeze (blankAfter state.collapse first) last.text.toList) := by
  induction init generalizing state with
  | nil =>
    rw [List.nil_append, shown_cons, hpending, String.empty_append, List.isEmpty_nil, String.toList_append,
      toList_visibleText]
    exact List.append_nil _
  | cons stretch rest ih =>
    intro first
    have hfirst : first = stretch.text.toList ++ (joined rest).toList :=
      (congrArg String.toList String.join_cons).trans String.toList_append
    have hmore : (rest ++ [last]).isEmpty = false := List.isEmpty_eq_false_iff.2 (List.concat_ne_nil _ _)
    let frame := base.within setting stretch.around
    let filled := { state with pending := state.pending ++ stretch.text }
    let behind := filled.behind setting frame.style false
    let next := behind.movedBy setting frame stretch.begins
    have hfilled : filled.pending = stretch.text := (congrArg (· ++ stretch.text) hpending).trans String.empty_append
    have hpast : next.pending = "" := by
      rw [TextState.pending_movedBy]
      exact filled.pending_behind setting frame.style false
    -- What a run hands on is whether a blank has come last in all characters so far.
    have hcollapse : next.collapse = blankAfter state.collapse stretch.text.toList := by
      rw [TextState.collapse_movedBy, TextState.collapse_behind, hfilled]
    rw [List.cons_append, shown_cons, hmore, String.toList_append, ih hpast, hcollapse, hfilled, toList_visibleText,
      hfirst, Text.squeeze_append, Text.blankAfter_append, List.append_assoc]
    rfl

/-- Where a space is left at the end, a blank has come last after characters that are not blanks alone. -/
theorem endsInSpace_eq {content : List MarkupEvent} {init : List Stretch} {last : Stretch}
    (hparts : MarkupEvent.spanParts content = init.map text ++ [last.text]) :
    let first := (joined init).toList
    MarkupEvent.endsInSpace content =
      (last.text.toList.all isBlank && (blankAfter true first && !first.all isBlank)) := by
  intro first
  have hends : MarkupEvent.endsInSpace content =
      (last.text.toList.all isBlank && (first.getLast?.any isBlank && !first.all isBlank)) := by
    rw [MarkupEvent.endsInSpace, hparts, List.dropLast_concat, List.getLastD_concat]
    rfl
  rw [hends]
  by_cases hnil : first = []
  · rw [hnil]
    rfl
  · rw [Text.blankAfter_of_ne_nil hnil]

/-- What is shown of a whole text. -/
theorem shown_ofContent {content : List MarkupEvent} (hpending : state.pending = "")
    (hcollapse : state.collapse = true) (htags : Tag.openAfter [] (MarkupEvent.tags content) = some []) :
    shown setting base state (ofContent [] content) =
      Text.trim (Text.collapseBlanks (MarkupEvent.data content)) ++
        if MarkupEvent.endsInSpace content then " " else "" := by
  obtain ⟨init, last, hstretches⟩ :=
    (List.eq_nil_or_concat' (ofContent [] content)).resolve_left (ofContent_ne_nil [] content)
  have hparts : MarkupEvent.spanParts content = init.map text ++ [last.text] := by
    have hmap := @map_text_ofContent [] content (Option.isSome_iff_exists.2 ⟨_, htags⟩)
    rw [← hmap, hstretches, List.map_append, List.map_singleton]
  have hdata : (MarkupEvent.data content).toList = (joined init).toList ++ last.text.toList := by
    have hlast : String.join [last.text] = last.text := String.empty_append
    rw [← MarkupEvent.join_spanParts, hparts, String.join_append, hlast, String.toList_append]
    rfl
  have hspace (ends : Bool) : (if ends then " " else "").toList = if ends then [' '] else [] := by
    cases ends <;> rfl
  rw [← String.toList_inj, hstretches, toList_shown_concat setting base hpending, hcollapse, String.toList_append,
    Text.toList_trim_collapseBlanks, hdata, Text.squeeze_append_dropTail, hspace, endsInSpace_eq hparts]

end Typeset

end Stretch

namespace Draw

variable {setting : Setting α} {embed : Option (Embedding α)} {drawing : Drawing α} {tag : StartTag}

/-- A text that is drawn has its characters with a space in place of each run of blanks and no blanks at either
    end, but for a space that is left at the end where all that follows the last tag of a span is blank. -/
theorem text_collapses {content : List MarkupEvent} (last : String) (hroot : drawing.document.rootSeen = true)
    (hdrawing : drawing.document.isDrawing = true) (hkind : tag.kind = .text)
    (htags : Tag.openAfter [] (MarkupEvent.tags content) = some [])
    (hcontent : ∀ event ∈ content, event.joinsText = true) :
    ∃ after runs,
      events setting embed (.startTag tag.name tag.attributes :: (content ++ [.endTag last])) drawing =
          (.ok (), after) ∧
        after.ledger.runs.toList = drawing.ledger.runs.toList ++ runs ∧
        TextRun.joined runs =
          Text.trim (Text.collapseBlanks (MarkupEvent.data content)) ++
            if MarkupEvent.endsInSpace content then " " else "" := by
  obtain ⟨after, hdrawn, -, hlays⟩ := events_text setting embed last hroot hdrawing hkind htags hcontent
  refine ⟨after, _, hdrawn, hlays.runs, ?_⟩
  rw [Stretch.laid, List.map_map]
  exact Stretch.shown_ofContent setting _ rfl rfl htags

/-- The space between two words is kept, and blanks at the end are not. -/
theorem text_collapses_words :
    let drawing := (Draw.events Exact.setting none [Exact.root] (.initial Exact.setting {})).2
    let content : List MarkupEvent := [.text " a ", .startTag "tspan" ⟨[]⟩, .text " b", .endTag "tspan", .text " c "]
    ∃ after runs,
      events Exact.setting none (.startTag "text" ⟨[]⟩ :: (content ++ [.endTag "text"])) drawing = (.ok (), after) ∧
        after.ledger.runs.toList = drawing.ledger.runs.toList ++ runs ∧ TextRun.joined runs = "a b c" := by
  intro drawing content
  obtain ⟨after, runs, hdrawn, hruns, hjoined⟩ := @text_collapses Rat _ Exact.setting none drawing
    ⟨"text", ⟨[]⟩⟩ content "text" (by decide +kernel) (by decide +kernel) (by decide) (by decide) (by decide)
  exact ⟨after, runs, hdrawn, hruns, hjoined.trans (by decide +kernel)⟩

/-- A space in front of a span in which a text ends stays. -/
theorem text_collapses_not_before_end :
    let drawing := (Draw.events Exact.setting none [Exact.root] (.initial Exact.setting {})).2
    let content : List MarkupEvent := [.text "a ", .startTag "tspan" ⟨[]⟩, .endTag "tspan"]
    let after := (Draw.events Exact.setting none (.startTag "text" ⟨[]⟩ :: (content ++ [.endTag "text"])) drawing).2
    drawing.ledger.runs.toList = [] ∧ TextRun.joined after.ledger.runs.toList = "a " ∧
      Text.trim (Text.collapseBlanks (MarkupEvent.data content)) = "a" := by
  decide +kernel

end Draw

end SvgPage
