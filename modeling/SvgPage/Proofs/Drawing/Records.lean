import SvgPage.Proofs.Drawing.Scope

namespace SvgPage

variable {α : Type}

/-- Whether the graphics state was saved when an element was opened. -/
def Closing.saves : Closing α → Bool
  | scope _ | nestedSvg _ | text _ _ => true
  | _ => false

namespace Document

/-- All that recording a start tag can do: nothing, above all while uses are expanded; or the tag is added
    to all recordings, and another recording may begin with it. -/
inductive Records (document : Document α) (name : String) (attributes : Attributes) :
    Document α → (recorded defines : Bool) → Prop
  | unrecorded : Records document name attributes document false false
  | shared (leadingText) (hreplay : document.replayDepth = 0) :
      Records document name attributes (document.recordEvent (.startTag name attributes leadingText))
        (!document.recordings.isEmpty) false
  | own (leadingText) {id} (hreplay : document.replayDepth = 0) (hid : attributes.get? "id" = some id) :
      Records document name attributes
        { document.recordEvent (.startTag name attributes leadingText) with
          definitions := document.definitions.set id .pending
          recordings := ⟨id, #[.startTag name attributes leadingText], false⟩ ::
            (document.recordings.map (·.push (.startTag name attributes leadingText))).map
              (·.supersede id) }
        true true

theorem recordStart_records (document : Document α) (name : String) (attributes : Attributes)
    (kind : ElementKind) :
    let result := document.recordStart name attributes kind
    Records document name attributes result.1 result.2.1 result.2.2 := by
  simp only [recordStart]
  split
  · exact .unrecorded
  next hmode =>
    have hreplay : document.replayDepth = 0 := by
      simp only [Bool.or_eq_true, decide_eq_true_eq, not_or] at hmode
      omega
    cases hid : (attributes.get? "id").filter (!·.isEmpty) with
    | none => exact .shared _ hreplay
    | some id => exact .own _ hreplay (Option.filter_eq_some_iff.1 hid).1

theorem recordStart_of_replaying {document : Document α} (hreplay : 0 < document.replayDepth) (name : String)
    (attributes : Attributes) (kind : ElementKind) :
    document.recordStart name attributes kind = (document, false, false) := by
  rw [recordStart, decide_eq_true hreplay]
  rfl

/-- All that the end tag of an element can do to a document from which the element has been taken. -/
def Ends (document : Document α) (element : OpenElement α) (name : String) (result : Document α) : Prop :=
  ∃ closed,
    Closes (if element.recorded then document.recordEnd name else document) element.closing closed ∧
      result = if element.defines then closed.finishRecording else closed

section Unchanged

variable {document result : Document α} {name : String}

theorem Records.standing_eq {attributes : Attributes} {recorded defines : Bool}
    (h : Records document name attributes result recorded defines) : result.standing = document.standing := by
  cases h <;> rfl

theorem Records.scope_eq {attributes : Attributes} {recorded defines : Bool}
    (h : Records document name attributes result recorded defines) : result.scope = document.scope := by
  cases h <;> rfl

theorem Records.openGradient_eq {attributes : Attributes} {recorded defines : Bool}
    (h : Records document name attributes result recorded defines) :
    result.openGradient = document.openGradient := by
  cases h <;> rfl

/-- A start tag without an id defines nothing. -/
theorem Records.definitions_eq {attributes : Attributes} {recorded defines : Bool}
    (h : Records document name attributes result recorded defines) (hid : attributes.get? "id" = none) :
    result.definitions = document.definitions := by
  cases h with
  | own leadingText hreplay hown =>
    rw [hid] at hown
    cases hown
  | _ => rfl

theorem finishRecording_standing (document : Document α) :
    document.finishRecording.standing = document.standing := by
  rw [finishRecording]
  split <;> rfl

theorem finishRecording_scope (document : Document α) : document.finishRecording.scope = document.scope := by
  rw [finishRecording]
  split <;> rfl

theorem finishRecording_openGradient (document : Document α) :
    document.finishRecording.openGradient = document.openGradient := by
  rw [finishRecording]
  split <;> rfl

theorem Ends.openGradient_eq {element : OpenElement α} (h : Ends document element name result) :
    result.openGradient = if element.closing.isGradient then none else document.openGradient := by
  obtain ⟨closed, hcloses, rfl⟩ := h
  have hclosed : closed.openGradient =
      if element.closing.isGradient then none else document.openGradient := by
    rw [hcloses.openGradient_eq]
    congr 1
    split <;> rfl
  split
  · rw [finishRecording_openGradient, hclosed]
  · exact hclosed

theorem Ends.standing_eq {element : OpenElement α} (h : Ends document element name result) :
    result.standing = document.standing := by
  obtain ⟨closed, hcloses, rfl⟩ := h
  have hclosed : closed.standing = document.standing := by
    rw [hcloses.standing_eq]
    split <;> rfl
  split
  · rw [finishRecording_standing, hclosed]
  · exact hclosed

/-- An end tag gives back the scope in which its element was opened. -/
theorem Ends.scope_eq {element : OpenElement α} (h : Ends document element name result) :
    result.scope = element.closing.undo document.scope := by
  obtain ⟨closed, hcloses, rfl⟩ := h
  have hclosed : closed.scope = element.closing.undo document.scope := by
    rw [hcloses.scope_eq]
    split <;> rfl
  split
  · rw [finishRecording_scope, hclosed]
  · exact hclosed

theorem addText_standing (document : Document α) (text : String) :
    (document.addText text).standing = document.standing := by
  simp only [addText]
  split <;> split <;> rfl

theorem addText_scope (document : Document α) (text : String) :
    (document.addText text).scope = document.scope := by
  simp only [addText]
  split
  next state _ hstate _ =>
    simp only [scope, hstate, Option.map_some]
    split <;> rfl
  · split <;> rfl

theorem addText_openGradient (document : Document α) (text : String) :
    (document.addText text).openGradient = document.openGradient := by
  simp only [addText]
  split <;> split <;> rfl

theorem addText_recordings (document : Document α) (text : String) :
    (document.addText text).recordings = document.recordings := by
  simp only [addText]
  split <;> split <;> rfl

theorem addText_definitions (document : Document α) (text : String) :
    (document.addText text).definitions = document.definitions := by
  simp only [addText]
  split <;> split <;> rfl

end Unchanged

section Output

variable {setting : Setting α} {document result : Document α}

theorem write_output (document : Document α) (operators : List (Operator α)) :
    (document.write operators).output.toList = document.output.toList ++ operators :=
  Array.toList_appendList

/-- Most elements are painted in a block, if at all. Those that save the graphics state leave it so. -/
theorem Opens.output_eq {kind : ElementKind} {opening : Opening α}
    (h : Opens setting document kind result opening) :
    ∃ operators, result.output.toList = document.output.toList ++ operators ∧
      if opening.closing.saves then Prologue operators else Block operators := by
  have hnothing : document.output.toList = document.output.toList ++ [] := (List.append_nil _).symm
  cases h with
  | inert hblock hkind => exact ⟨_, write_output .., hblock⟩
  | group frame hdrawing hprologue => exact ⟨_, write_output .., hprologue⟩
  | nestedSvg frame hdrawing hprologue => exact ⟨_, write_output .., hprologue⟩
  | text frame hdrawing hkind hdepth hprologue => exact ⟨_, write_output .., hprologue⟩
  | span frame hdrawing htext hdepth hblock => exact ⟨_, write_output .., hblock⟩
  | _ => exact ⟨[], hnothing, .nil⟩

/-- The end of an element that saved the graphics state restores it, after a block at most. -/
theorem Closes.output_eq {closing : Closing α} (h : Closes document closing result) :
    ∃ operators, Block operators ∧ result.output.toList =
      document.output.toList ++ (operators ++ if closing.saves then [.restore] else []) := by
  have hnothing : document.output.toList = document.output.toList ++ ([] ++ []) := (List.append_nil _).symm
  cases h with
  | scope frame => exact ⟨[], .nil, write_output ..⟩
  | nestedSvg frame => exact ⟨[], .nil, write_output ..⟩
  | text frame outer hblock => exact ⟨_, hblock, write_output ..⟩
  | span frame hblock hdepth =>
    refine ⟨_, hblock, (write_output ..).trans ?_⟩
    exact congrArg (_ ++ ·) (List.append_nil _).symm
  | _ => exact ⟨[], .nil, hnothing⟩

theorem Records.output_eq {name : String} {attributes : Attributes} {recorded defines : Bool}
    (h : Records document name attributes result recorded defines) : result.output = document.output := by
  cases h <;> rfl

theorem finishRecording_output (document : Document α) :
    document.finishRecording.output = document.output := by
  rw [finishRecording]
  split <;> rfl

theorem Ends.output_eq {element : OpenElement α} {name : String} (h : Ends document element name result) :
    ∃ operators, Block operators ∧ result.output.toList =
      document.output.toList ++ (operators ++ if element.closing.saves then [.restore] else []) := by
  obtain ⟨closed, hcloses, rfl⟩ := h
  obtain ⟨operators, hblock, houtput⟩ := hcloses.output_eq
  have hrecorded : (if element.recorded then document.recordEnd name else document).output =
      document.output := by
    split <;> rfl
  rw [hrecorded] at houtput
  refine ⟨operators, hblock, ?_⟩
  split
  · rw [finishRecording_output, houtput]
  · exact houtput

theorem addText_output (document : Document α) (text : String) :
    (document.addText text).output = document.output := by
  simp only [addText]
  split <;> split <;> rfl

end Output

variable [Scalar α]

theorem endElement_ends (setting : Setting α) (document : Document α) (element : OpenElement α)
    (name : String) (ledger : Ledger α) :
    Ends document element name (document.endElement setting element name ledger).1 :=
  ⟨_, close_closes setting _ element.closing ledger, rfl⟩

end Document

end SvgPage
