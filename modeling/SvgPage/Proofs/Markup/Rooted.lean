import SvgPage.Proofs.Markup.Matched

namespace SvgPage

namespace Tag

/-- The tags of a document as far as it has been read, with the names of the elements that are open,
    innermost first: nothing yet, a root and part of what is in it, or a root that is closed. -/
inductive Rooted : List Tag → List String → Prop
  | unopened : Rooted [] []
  | inside {root inner above} (hinner : openAfter [] inner = some above) :
      Rooted (.start root :: inner) (above ++ [root])
  | closed {root inner} (hinner : openAfter [] inner = some []) :
      Rooted (.start root :: (inner ++ [.stop root])) []

namespace Rooted

variable {tags : List Tag} {name : String} {names : List String}

theorem start (h : Rooted tags names) (hplace : names ≠ [] ∨ tags = []) (name : String) :
    Rooted (tags ++ [.start name]) (name :: names) := by
  cases h with
  | unopened =>
    have hinner : openAfter [] [] = some [] := rfl
    exact .inside hinner
  | @inside root inner above hinner =>
    have hopened : openAfter [] (inner ++ [.start name]) = some (name :: above) := by
      rw [openAfter_append, hinner]
      rfl
    exact .inside hopened
  | closed hinner => simp at hplace

theorem stop (h : Rooted tags (name :: names)) : Rooted (tags ++ [.stop name]) names := by
  generalize hnames : name :: names = open' at h
  cases h with
  | unopened => cases hnames
  | closed hinner => cases hnames
  | @inside root inner above hinner =>
    cases above with
    | nil =>
      obtain ⟨rfl, rfl⟩ := List.cons.inj hnames
      exact .closed hinner
    | cons innermost above =>
      obtain ⟨rfl, rfl⟩ := List.cons.inj hnames
      have hclosed : openAfter [] (inner ++ [.stop name]) = some above := by
        rw [openAfter_append, hinner]
        exact if_pos rfl
      exact .inside hclosed

end Rooted

end Tag

namespace MarkupEvent

theorem eq_startTag {event : MarkupEvent} {name : String} (h : event.tag? = some (.start name)) :
    ∃ attributes, event = .startTag name attributes := by
  cases event with
  | startTag other attributes =>
    cases h
    exact ⟨attributes, rfl⟩
  | endTag other => cases h
  | text text => cases h

theorem eq_endTag {event : MarkupEvent} {name : String} (h : event.tag? = some (.stop name)) :
    event = .endTag name := by
  cases event with
  | startTag other attributes => cases h
  | endTag other =>
    cases h
    rfl
  | text text => cases h

/-- Events whose tags are those of one element are those of a document. -/
theorem isDocument_of_tags {events : List MarkupEvent} {root : String} {inner : List Tag}
    (hevents : tags events = .start root :: (inner ++ [.stop root])) (hinner : Tag.openAfter [] inner = some []) :
    IsDocument events := by
  obtain ⟨before, first, rest, rfl, hbefore, hfirst, hrest⟩ := List.filterMap_eq_cons_iff.1 hevents
  obtain ⟨content, ending, rfl, hcontent, hending⟩ := List.filterMap_eq_append_iff.1 hrest
  obtain ⟨trailing, last, after, rfl, htrailing, hlast, hafter⟩ := List.filterMap_eq_cons_iff.1 hending
  obtain ⟨attributes, rfl⟩ := eq_startTag hfirst
  obtain rfl := eq_endTag hlast
  have hnone : tags trailing = [] := List.filterMap_eq_nil_iff.2 htrailing
  have hcontent : tags content = inner := hcontent
  refine ⟨before, .startTag root attributes :: ((content ++ trailing) ++ [.endTag root]), after, ?_,
    List.filterMap_eq_nil_iff.2 hbefore, ⟨root, attributes, content ++ trailing, rfl, ?_⟩, hafter⟩
  · simp only [List.append_assoc, List.cons_append, List.nil_append]
  · rw [tags_append, hnone, List.append_nil]
    rwa [hcontent]

end MarkupEvent

namespace Markup

/-- Whether a reader is in a start tag, after its name. -/
def Phase.isDrafting : Phase → Bool
  | .reference (.value ..) _ | .tagBlank _ | .tagSlash _ | .attributeName .. | .attributeEquals ..
  | .attributeStart .. | .attributeValue .. | .attributeEnd _ => true
  | _ => false

namespace Reader

/-- The tags of a reader so far. -/
def tags (r : Reader) : List Tag := MarkupEvent.tags r.events.reverse

/-- What holds outside of start tags: a root has been seen if its start tag has been read. -/
structure Settled (r : Reader) : Prop where
  rooted : Tag.Rooted r.tags r.openElements
  rootSeen : r.rootSeen = true ↔ r.tags ≠ []

/-- What holds in a start tag: it is that of the root, or that of an element in it. -/
structure Drafting (r : Reader) : Prop where
  rooted : Tag.Rooted r.tags r.openElements
  rootSeen : r.rootSeen = true
  place : r.openElements ≠ [] ∨ r.tags = []

/-- What holds of a reader, unless it has failed. -/
def Rooted (r : Reader) : Prop :=
  r.phase = .failed ∨ if r.phase.isDrafting then r.Drafting else r.Settled

variable {r : Reader}

theorem rooted_fail (r : Reader) : r.fail.Rooted := .inl rfl

/-- Only the phase, the events, and what is open count. -/
theorem Rooted.of_eq {other : Reader} (h : r.Rooted) (hphase : other.phase = r.phase)
    (hevents : other.events = r.events) (hopen : other.openElements = r.openElements)
    (hseen : other.rootSeen = r.rootSeen) : other.Rooted := by
  have htags : other.tags = r.tags := by
    rw [tags, hevents]
    rfl
  rw [Rooted, hphase]
  refine h.imp id fun hplace => ?_
  split at hplace
  next hdrafting =>
    rw [if_pos hdrafting]
    refine ⟨?_, hseen.trans hplace.rootSeen, ?_⟩
    · rw [htags, hopen]
      exact hplace.rooted
    · rw [htags, hopen]
      exact hplace.place
  next hsettled =>
    rw [if_neg hsettled]
    refine ⟨?_, ?_⟩
    · rw [htags, hopen]
      exact hplace.rooted
    · rw [htags, hseen]
      exact hplace.rootSeen

theorem tags_emit (r : Reader) (event : MarkupEvent) : (r.emit event).tags = r.tags ++ MarkupEvent.tags [event] := by
  change MarkupEvent.tags (event :: r.events).reverse = _
  rw [List.reverse_cons, MarkupEvent.tags_append]
  rfl

namespace Settled

theorem enter (h : r.Settled) (phase : Phase) (hphase : phase.isDrafting = false) : (r.enter phase).Rooted := by
  refine .inr ?_
  rw [Reader.enter, hphase]
  exact ⟨h.rooted, h.rootSeen⟩

theorem require (h : r.Settled) (condition : Bool) (phase : Phase) (hphase : phase.isDrafting = false) :
    (r.require condition phase).Rooted := by
  rw [Reader.require]
  split
  · exact h.enter phase hphase
  · exact rooted_fail r

theorem emit_text (h : r.Settled) (text : String) : (r.emit (.text text)).Settled := by
  have htags : (r.emit (.text text)).tags = r.tags := by
    rw [tags_emit, MarkupEvent.tags_text, List.append_nil]
  refine ⟨?_, ?_⟩
  · rw [htags]
    exact h.rooted
  · rw [htags]
    exact h.rootSeen

theorem flushText (h : r.Settled) : r.flushText.Settled := by
  rw [Reader.flushText]
  split
  · exact h
  · exact ⟨(h.emit_text _).rooted, (h.emit_text _).rootSeen⟩

theorem stepText (h : r.Settled) (brackets : Nat) (solid : Bool) (c : Char) :
    (r.stepText brackets solid c).Rooted := by
  have hpushed : (r.push c).Settled := ⟨h.rooted, h.rootSeen⟩
  unfold Reader.stepText
  repeat' split
  all_goals first
    | exact h.flushText.enter _ rfl
    | exact h.flushText.require _ _ rfl
    | exact h.enter _ rfl
    | exact hpushed.enter _ rfl

theorem stepReference (h : r.Settled) (name : List Char) (c : Char) :
    (r.stepReference .text name c).Rooted := by
  rw [Reader.stepReference]
  split
  · exact h.enter _ rfl
  · split
    · exact rooted_fail r
    · exact (h.enter (.text 0 false) rfl).of_eq rfl rfl rfl rfl

theorem stepMarkup (h : r.Settled) (declarable : Bool) (c : Char) : (r.stepMarkup declarable c).Rooted := by
  unfold Reader.stepMarkup
  repeat' split
  all_goals first
    | exact h.enter _ rfl
    | exact h.require _ _ rfl

theorem stepBang (h : r.Settled) (collected : List Char) (c : Char) : (r.stepBang collected c).Rooted := by
  rw [Reader.stepBang]
  generalize String.ofList (c :: collected).reverse = text
  split
  · exact h.require _ _ rfl
  · split
    · exact h.enter _ rfl
    · split
      · exact h.require _ _ rfl
      · exact h.require _ _ rfl

theorem stepComment (h : r.Settled) (hyphens : Nat) (c : Char) : (r.stepComment hyphens c).Rooted := by
  unfold Reader.stepComment
  split
  · exact h.require _ _ rfl
  · exact h.enter _ rfl

theorem stepCharacterData (h : r.Settled) (text : List Char) (brackets : Nat) (c : Char) :
    (r.stepCharacterData text brackets c).Rooted := by
  unfold Reader.stepCharacterData
  repeat' split
  all_goals first
    | exact (h.emit_text _).enter _ rfl
    | exact h.enter _ rfl

theorem stepDoctype (h : r.Settled) (text : List Char) (place : DoctypePlace) (c : Char) :
    (r.stepDoctype text place c).Rooted := by
  unfold Reader.stepDoctype
  repeat' split
  all_goals first
    | exact h.enter _ rfl
    | exact (h.enter (.text 0 false) rfl).of_eq rfl rfl rfl rfl

theorem stepInstructionTarget (h : r.Settled) (declarable : Bool) (target : List Char) (c : Char) :
    (r.stepInstructionTarget declarable target c).Rooted := by
  dsimp only [Reader.stepInstructionTarget]
  repeat' split
  all_goals first
    | exact h.enter _ rfl
    | exact h.require _ _ rfl

theorem stepInstructionBody (h : r.Settled) (target : String) (ending : Bool) (c : Char) :
    (r.stepInstructionBody target ending c).Rooted := by
  unfold Reader.stepInstructionBody
  split
  · exact h.require _ _ rfl
  · exact h.enter _ rfl

theorem declare (h : r.Settled) (name : String) (value : List Char) : (r.declare name value).Rooted := by
  unfold Reader.declare
  dsimp only
  split
  · have hversion : (r.require (isVersion value) (.declaration ["encoding", "standalone"] .afterValue)).Rooted :=
      h.require _ _ rfl
    exact hversion.of_eq rfl rfl rfl rfl
  · split
    · exact h.require _ _ rfl
    · exact h.require _ _ rfl

theorem stepDeclaration (h : r.Settled) (expected : List String) (place : DeclarationPlace) (c : Char) :
    (r.stepDeclaration expected place c).Rooted := by
  dsimp only [Reader.stepDeclaration]
  repeat' split
  all_goals first
    | exact h.enter _ rfl
    | exact h.require _ _ rfl
    | exact h.declare _ _

/-- Whatever an end tag is called, it is taken for that of the innermost element. -/
theorem closeTag (h : r.Settled) (name : String) : (r.closeTag name).Rooted := by
  rw [Reader.closeTag]
  split
  · exact rooted_fail r
  next innermost outer helements =>
    split
    · exact rooted_fail r
    · have htags : (r.emit (.endTag innermost)).tags = r.tags ++ [.stop innermost] := tags_emit r _
      have hrooted := h.rooted
      rw [helements] at hrooted
      have hclosed : Settled { r.emit (.endTag innermost) with openElements := outer } := by
        refine ⟨?_, ?_⟩
        · change Tag.Rooted (r.emit (.endTag innermost)).tags outer
          rw [htags]
          exact hrooted.stop
        · change r.rootSeen = true ↔ (r.emit (.endTag innermost)).tags ≠ []
          have hsome : r.tags ≠ [] := by
            intro hnone
            rw [hnone] at hrooted
            cases hrooted
          rw [htags, h.rootSeen]
          exact iff_of_true hsome (List.append_ne_nil_of_left_ne_nil hsome _)
      dsimp only
      split
      · exact hclosed.enter _ rfl
      · exact rooted_fail _

end Settled

namespace Drafting

theorem enter (h : r.Drafting) (phase : Phase) (hphase : phase.isDrafting = true) : (r.enter phase).Rooted := by
  refine .inr ?_
  rw [Reader.enter, hphase]
  exact ⟨h.rooted, h.rootSeen, h.place⟩

theorem require (h : r.Drafting) (condition : Bool) (phase : Phase) (hphase : phase.isDrafting = true) :
    (r.require condition phase).Rooted := by
  rw [Reader.require]
  split
  · exact h.enter phase hphase
  · exact rooted_fail r

theorem tags_start (r : Reader) (tag : TagDraft) : (r.emit (startEvent tag)).tags = r.tags ++ [.start tag.name] :=
  tags_emit r _

theorem openTag (h : r.Drafting) (tag : TagDraft) : (r.openTag tag).Rooted := by
  rw [Reader.openTag]
  split
  · exact rooted_fail r
  · refine .inr ⟨?_, ?_⟩
    · change Tag.Rooted (r.emit (startEvent tag)).tags _
      rw [tags_start]
      exact h.rooted.start h.place tag.name
    · change r.rootSeen = true ↔ (r.emit (startEvent tag)).tags ≠ []
      rw [tags_start]
      exact iff_of_true h.rootSeen (List.append_ne_nil_of_right_ne_nil _ (List.cons_ne_nil _ _))

theorem openAndClose (h : r.Drafting) (tag : TagDraft) : (r.openAndClose tag).Rooted := by
  rw [Reader.openAndClose]
  split
  · exact rooted_fail r
  · have htags : ((r.emit (startEvent tag)).emit (.endTag tag.name)).tags =
        r.tags ++ [.start tag.name] ++ [.stop tag.name] := by
      rw [tags_emit, tags_start]
      rfl
    refine .inr ⟨?_, ?_⟩
    · change Tag.Rooted ((r.emit (startEvent tag)).emit (.endTag tag.name)).tags r.openElements
      rw [htags]
      exact (h.rooted.start h.place tag.name).stop
    · change r.rootSeen = true ↔ ((r.emit (startEvent tag)).emit (.endTag tag.name)).tags ≠ []
      rw [htags]
      exact iff_of_true h.rootSeen (List.append_ne_nil_of_right_ne_nil _ (List.cons_ne_nil _ _))

theorem afterTagPart (h : r.Drafting) (tag : TagDraft) (c : Char) : (r.afterTagPart tag c).Rooted := by
  rw [Reader.afterTagPart]
  split
  · exact h.openTag tag
  · split
    · exact h.enter _ rfl
    · exact h.require _ _ rfl

theorem stepReference (h : r.Drafting) (tag : TagDraft) (key : String) (quote : Char)
    (value name : List Char) (c : Char) :
    (r.stepReference (.value tag key quote value) name c).Rooted := by
  rw [Reader.stepReference]
  split
  · exact h.enter _ rfl
  · split
    · exact rooted_fail r
    · exact h.enter _ rfl

theorem stepAttributeName (h : r.Drafting) (tag : TagDraft) (name : List Char) (c : Char) :
    (r.stepAttributeName tag name c).Rooted := by
  unfold Reader.stepAttributeName
  repeat' split
  all_goals first
    | exact h.enter _ rfl
    | exact h.require _ _ rfl

theorem stepAttributeValue (h : r.Drafting) (tag : TagDraft) (name : String) (quote : Char)
    (value : List Char) (c : Char) : (r.stepAttributeValue tag name quote value c).Rooted := by
  unfold Reader.stepAttributeValue
  repeat' split
  all_goals first
    | exact h.enter _ rfl
    | exact h.require _ _ rfl

end Drafting

/-- A start tag is read only where nothing has been read yet, or in an element. -/
theorem Settled.stepTagName (h : r.Settled) (name : List Char) (c : Char) : (r.stepTagName name c).Rooted := by
  rw [Reader.stepTagName]
  split
  · exact h.enter _ rfl
  · split
    · exact rooted_fail r
    next hplace =>
      have hdrafting : Drafting { r with rootSeen := true } := by
        refine ⟨h.rooted, rfl, ?_⟩
        by_cases hopen : r.openElements = []
        · refine .inr (Classical.byContradiction fun hsome => hplace ?_)
          rw [h.rootSeen.2 hsome, isInsideRoot, hopen]
          rfl
        · exact .inl hopen
      exact hdrafting.afterTagPart _ c

theorem Settled.step (h : r.Settled) (hphase : r.phase.isDrafting = false) (c : Char) : (r.step c).Rooted := by
  have hsame : r.Rooted := .inr ((if_neg (Bool.eq_false_iff.1 hphase)).mpr h)
  cases hr : r.phase with
  | leading untouched =>
    simp only [Reader.step, hr]
    repeat' split
    all_goals first
      | exact h.enter _ rfl
      | exact h.stepText _ _ c
  | reference place name =>
    cases place with
    | text =>
      simp only [Reader.step, hr]
      exact h.stepReference name c
    | value tag key quote value => simp [hr, Phase.isDrafting] at hphase
  | instructionStart declarable =>
    simp only [Reader.step, hr]
    exact h.require _ _ rfl
  | endName name =>
    simp only [Reader.step, hr]
    split
    · exact h.enter _ rfl
    · split
      · exact h.closeTag _
      · exact h.require _ _ rfl
  | endBlank name =>
    simp only [Reader.step, hr]
    split
    · exact hsame
    · split
      · exact h.closeTag _
      · exact rooted_fail r
  | failed =>
    simp only [Reader.step, hr]
    exact hsame
  | tagBlank _ | tagSlash _ | attributeName _ _ | attributeEquals _ _ | attributeStart _ _
  | attributeValue _ _ _ _ | attributeEnd _ =>
    rw [hr] at hphase
    cases hphase
  | _ =>
    simp only [Reader.step, hr]
    first
      | exact h.stepText _ _ c
      | exact h.stepMarkup _ c
      | exact h.stepBang _ c
      | exact h.stepComment _ c
      | exact h.stepCharacterData _ _ c
      | exact h.stepDoctype _ _ c
      | exact h.stepInstructionTarget _ _ c
      | exact h.stepInstructionBody _ _ c
      | exact h.stepDeclaration _ _ c
      | exact h.stepTagName _ c

theorem Drafting.step (h : r.Drafting) (hphase : r.phase.isDrafting = true) (c : Char) : (r.step c).Rooted := by
  have hsame : r.Rooted := .inr ((if_pos hphase).mpr h)
  cases hr : r.phase with
  | reference place name =>
    cases place with
    | text => simp [hr, Phase.isDrafting] at hphase
    | value tag key quote value =>
      simp only [Reader.step, hr]
      exact h.stepReference tag key quote value name c
  | tagBlank tag =>
    simp only [Reader.step, hr]
    split
    · exact h.enter _ rfl
    · exact h.afterTagPart tag c
  | tagSlash tag =>
    simp only [Reader.step, hr]
    split
    · exact h.openAndClose tag
    · exact rooted_fail r
  | attributeName tag name =>
    simp only [Reader.step, hr]
    exact h.stepAttributeName tag name c
  | attributeEquals tag name =>
    simp only [Reader.step, hr]
    split
    · exact hsame
    · exact h.require _ _ rfl
  | attributeStart tag name =>
    simp only [Reader.step, hr]
    split
    · exact hsame
    · exact h.require _ _ rfl
  | attributeValue tag name quote value =>
    simp only [Reader.step, hr]
    exact h.stepAttributeValue tag name quote value c
  | attributeEnd tag =>
    simp only [Reader.step, hr]
    exact h.afterTagPart tag c
  | _ =>
    rw [hr] at hphase
    cases hphase

theorem Rooted.step (h : r.Rooted) (c : Char) : (r.step c).Rooted := by
  obtain hfailed | hplace := h
  · rw [Reader.step, hfailed]
    exact .inl hfailed
  · split at hplace
    next hphase => exact hplace.step hphase c
    next hphase => exact hplace.step (Bool.eq_false_iff.2 hphase) c

theorem Rooted.read (h : r.Rooted) (c : Char) : (r.read c).Rooted := by
  unfold Reader.read
  split
  · exact h
  · split
    · exact h.of_eq rfl rfl rfl rfl
    · split
      · have hline : Rooted { r with line := r.line + 1, afterReturn := c == '\r' } := h.of_eq rfl rfl rfl rfl
        exact hline.step '\n'
      · have hnext : Rooted { r with afterReturn := false } := h.of_eq rfl rfl rfl rfl
        repeat' split
        all_goals first
          | exact rooted_fail r
          | exact hnext.step c

theorem Rooted.foldl_read (h : r.Rooted) (cs : List Char) : (cs.foldl Reader.read r).Rooted := by
  induction cs generalizing r with
  | nil => exact h
  | cons c cs ih => exact ih (h.read c)

/-- The tags of a root that is closed are those of an element. -/
theorem Settled.isDocument (h : r.Settled) (hseen : r.rootSeen = true) (hopen : r.openElements = []) :
    MarkupEvent.IsDocument r.events.reverse := by
  have hsome := h.rootSeen.1 hseen
  have hrooted := h.rooted
  rw [hopen] at hrooted
  rw [tags] at hrooted hsome
  generalize htags : MarkupEvent.tags r.events.reverse = tags at hrooted hsome
  generalize hnames : ([] : List String) = names at hrooted
  cases hrooted with
  | unopened => exact absurd rfl hsome
  | inside hinner => exact absurd hnames.symm (List.append_ne_nil_of_right_ne_nil _ (List.cons_ne_nil _ _))
  | closed hinner => exact MarkupEvent.isDocument_of_tags htags hinner

/-- A document that is well-formed up to its end has one root. -/
theorem Rooted.finish (h : r.Rooted) (hwhole : r.finish.errorLine = none) :
    MarkupEvent.IsDocument r.finish.events := by
  unfold Reader.finish at hwhole ⊢
  split at hwhole
  next brackets solid hphase =>
    split at hwhole
    · cases hwhole
    next hblank =>
      split at hwhole
      next hclosed =>
        have hsettled : r.Settled := by
          have hplace := h.resolve_left (by rw [hphase]; nofun)
          rw [hphase] at hplace
          exact hplace
        have hflushed := hsettled.flushText
        rw [if_neg hblank, if_pos hclosed]
        rw [Bool.and_eq_true, isInsideRoot, Bool.not_not, List.isEmpty_iff] at hclosed
        have hkept : r.flushText.rootSeen = r.rootSeen ∧ r.flushText.openElements = r.openElements := by
          rw [Reader.flushText]
          split
          · exact ⟨rfl, rfl⟩
          · exact ⟨rfl, rfl⟩
        exact hflushed.isDocument (hkept.1.trans hclosed.1) (hkept.2.trans hclosed.2)
      · cases hwhole
  · cases hwhole

end Reader

/-- What is read of a well-formed document are the events of one root. -/
theorem read_isDocument {markup : String} (h : (read markup).errorLine = none) :
    MarkupEvent.IsDocument (read markup).events := by
  have hinitial : Reader.Rooted {} := .inr ⟨.unopened, iff_of_false Bool.false_ne_true (fun h => h rfl)⟩
  exact (hinitial.foldl_read _).finish h

end Markup

end SvgPage
