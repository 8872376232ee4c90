import SvgPage.Markup.Reader
import SvgPage.Proofs.Traversal.Tag

namespace SvgPage.Markup

namespace Reader

/-- The tags of the events so far match, up to the elements that are open. -/
def Matched (r : Reader) : Prop :=
  Tag.openAfter [] (MarkupEvent.tags r.events.reverse) = some r.openElements

variable {r : Reader}

theorem matched_emit (r : Reader) (event : MarkupEvent) {names : List String}
    (hnames : Tag.openAfter r.openElements (MarkupEvent.tags [event]) = some names) (h : r.Matched) :
    Tag.openAfter [] (MarkupEvent.tags (r.emit event).events.reverse) = some names := by
  change Tag.openAfter [] (MarkupEvent.tags (event :: r.events).reverse) = _
  rw [List.reverse_cons, MarkupEvent.tags_append, Tag.openAfter_append, h, Option.bind_some, hnames]

namespace Matched

theorem enter (h : r.Matched) (phase : Phase) : (r.enter phase).Matched := h

theorem fail (h : r.Matched) : r.fail.Matched := h

theorem toText (h : r.Matched) : r.toText.Matched := h

theorem require (h : r.Matched) (condition : Bool) (phase : Phase) :
    (r.require condition phase).Matched := by
  rw [Reader.require]
  split
  · exact h.enter phase
  · exact h.fail

theorem emit_text (h : r.Matched) (text : String) : (r.emit (.text text)).Matched :=
  matched_emit r _ rfl h

theorem flushText (h : r.Matched) : r.flushText.Matched := by
  rw [Reader.flushText]
  split
  · exact h
  · exact h.emit_text _

theorem openTag (h : r.Matched) (tag : TagDraft) : (r.openTag tag).Matched := by
  rw [Reader.openTag]
  split
  · exact h.fail
  · exact matched_emit r (startEvent tag) rfl h

theorem openAndClose (h : r.Matched) (tag : TagDraft) : (r.openAndClose tag).Matched := by
  rw [Reader.openAndClose]
  split
  · exact h.fail
  · let opened : Reader := { r.emit (startEvent tag) with openElements := tag.name :: r.openElements }
    have hopened : opened.Matched := matched_emit r (startEvent tag) rfl h
    exact matched_emit opened (.endTag tag.name) (if_pos rfl) hopened

/-- Whatever an end tag is called, it is taken for that of the innermost element. -/
theorem closeTag (h : r.Matched) (name : String) : (r.closeTag name).Matched := by
  rw [Reader.closeTag]
  split
  · exact h.fail
  next innermost outer helements =>
    split
    · exact h.fail
    · have hclosed : Matched { r.emit (.endTag innermost) with openElements := outer } := by
        refine matched_emit r (.endTag innermost) ?_ h
        rw [helements]
        exact if_pos rfl
      dsimp only
      split
      · exact hclosed.toText
      · exact hclosed.fail

theorem afterTagPart (h : r.Matched) (tag : TagDraft) (c : Char) : (r.afterTagPart tag c).Matched := by
  rw [Reader.afterTagPart]
  split
  · exact h.openTag tag
  · split
    · exact h.enter _
    · exact h.require _ _

theorem stepText (h : r.Matched) (brackets : Nat) (solid : Bool) (c : Char) :
    (r.stepText brackets solid c).Matched := by
  unfold Reader.stepText
  repeat' split
  all_goals first
    | exact h.flushText.enter _
    | exact h.flushText.require _ _
    | exact h

theorem stepReference (h : r.Matched) (place : ReferencePlace) (name : List Char) (c : Char) :
    (r.stepReference place name c).Matched := by
  unfold Reader.stepReference
  repeat' split
  all_goals exact h

theorem stepMarkup (h : r.Matched) (declarable : Bool) (c : Char) : (r.stepMarkup declarable c).Matched := by
  unfold Reader.stepMarkup
  repeat' split
  all_goals first
    | exact h.enter _
    | exact h.require _ _

theorem stepBang (h : r.Matched) (collected : List Char) (c : Char) : (r.stepBang collected c).Matched := by
  rw [Reader.stepBang]
  generalize String.ofList (c :: collected).reverse = text
  split
  · exact h.require _ _
  · split
    · exact h.enter _
    · split
      · exact h.require _ _
      · exact h.require _ _

theorem stepComment (h : r.Matched) (hyphens : Nat) (c : Char) : (r.stepComment hyphens c).Matched := by
  unfold Reader.stepComment
  split
  · exact h.require _ _
  · exact h.enter _

theorem stepCharacterData (h : r.Matched) (text : List Char) (brackets : Nat) (c : Char) :
    (r.stepCharacterData text brackets c).Matched := by
  unfold Reader.stepCharacterData
  repeat' split
  all_goals first
    | exact h.emit_text _
    | exact h.enter _

theorem stepDoctype (h : r.Matched) (text : List Char) (place : DoctypePlace) (c : Char) :
    (r.stepDoctype text place c).Matched := by
  unfold Reader.stepDoctype
  repeat' split
  all_goals exact h

theorem stepInstructionTarget (h : r.Matched) (declarable : Bool) (target : List Char) (c : Char) :
    (r.stepInstructionTarget declarable target c).Matched := by
  dsimp only [Reader.stepInstructionTarget]
  repeat' split
  all_goals first
    | exact h.enter _
    | exact h.require _ _

theorem stepInstructionBody (h : r.Matched) (target : String) (ending : Bool) (c : Char) :
    (r.stepInstructionBody target ending c).Matched := by
  unfold Reader.stepInstructionBody
  split
  · exact h.require _ _
  · exact h.enter _

theorem declare (h : r.Matched) (name : String) (value : List Char) : (r.declare name value).Matched := by
  unfold Reader.declare
  repeat' split
  all_goals exact h.require _ _

theorem stepDeclaration (h : r.Matched) (expected : List String) (place : DeclarationPlace) (c : Char) :
    (r.stepDeclaration expected place c).Matched := by
  dsimp only [Reader.stepDeclaration]
  repeat' split
  all_goals first
    | exact h.enter _
    | exact h.require _ _
    | exact h.declare _ _

theorem stepTagName (h : r.Matched) (name : List Char) (c : Char) : (r.stepTagName name c).Matched := by
  unfold Reader.stepTagName
  split
  · exact h.enter _
  · split
    · exact h.fail
    · have hseen : Matched { r with rootSeen := true } := h
      exact hseen.afterTagPart _ c

theorem stepAttributeName (h : r.Matched) (tag : TagDraft) (name : List Char) (c : Char) :
    (r.stepAttributeName tag name c).Matched := by
  unfold Reader.stepAttributeName
  repeat' split
  all_goals first
    | exact h.enter _
    | exact h.require _ _

theorem stepAttributeValue (h : r.Matched) (tag : TagDraft) (name : String) (quote : Char)
    (value : List Char) (c : Char) : (r.stepAttributeValue tag name quote value c).Matched := by
  unfold Reader.stepAttributeValue
  repeat' split
  all_goals first
    | exact h.enter _
    | exact h.require _ _

theorem step (h : r.Matched) (c : Char) : (r.step c).Matched := by
  unfold Reader.step
  split
  · repeat' split
    all_goals first
      | exact h.enter _
      | exact h.stepText _ _ c
  · exact h.stepText _ _ c
  · exact h.stepReference _ _ c
  · exact h.stepMarkup _ c
  · exact h.stepBang _ c
  · exact h.stepComment _ c
  · exact h.stepCharacterData _ _ c
  · exact h.stepDoctype _ _ c
  · exact h.require _ _
  · exact h.stepInstructionTarget _ _ c
  · exact h.stepInstructionBody _ _ c
  · exact h.stepDeclaration _ _ c
  · exact h.stepTagName _ c
  · split
    · exact h.enter _
    · exact h.afterTagPart _ c
  · split
    · exact h.openAndClose _
    · exact h.fail
  · exact h.stepAttributeName _ _ c
  · split
    · exact h
    · exact h.require _ _
  · split
    · exact h
    · exact h.require _ _
  · exact h.stepAttributeValue _ _ _ _ c
  · exact h.afterTagPart _ c
  · split
    · exact h.enter _
    · split
      · exact h.closeTag _
      · exact h.require _ _
  · split
    · exact h
    · split
      · exact h.closeTag _
      · exact h.fail
  · exact h

theorem read (h : r.Matched) (c : Char) : (r.read c).Matched := by
  unfold Reader.read
  split
  · exact h
  · split
    · exact h
    · split
      · have hline : Matched { r with line := r.line + 1, afterReturn := c == '\r' } := h
        exact hline.step '\n'
      · have hnext : Matched { r with afterReturn := false } := h
        repeat' split
        all_goals first
          | exact h.fail
          | exact hnext.step c

theorem foldl_read (h : r.Matched) (cs : List Char) : (cs.foldl Reader.read r).Matched := by
  induction cs generalizing r with
  | nil => exact h
  | cons c cs ih => exact ih (h.read c)

theorem finish (h : r.Matched) : (Tag.openAfter [] (MarkupEvent.tags r.finish.events)).isSome = true := by
  have hall : (Tag.openAfter [] (MarkupEvent.tags r.events.reverse)).isSome = true :=
    Option.isSome_of_eq_some h
  unfold Reader.finish
  split
  · split
    · exact hall
    · split
      · exact Option.isSome_of_eq_some h.flushText
      · exact hall
  · exact hall

end Matched

end Reader

/-- In the events of a document, no end tag is for another element than the innermost one that is open,
    well-formed or not as the document may be. -/
theorem read_matched (markup : String) :
    (Tag.openAfter [] (MarkupEvent.tags (read markup).events)).isSome = true := by
  have hinitial : Reader.Matched {} := rfl
  exact (hinitial.foldl_read _).finish

end SvgPage.Markup
