import SvgPage.Proofs.Drawing.Plain
import SvgPage.Proofs.Drawing.Records
import SvgPage.Proofs.Element.Alike
import SvgPage.Proofs.Traversal.Handles
import SvgPage.Proofs.Traversal.Transcript

namespace SvgPage

open Document

variable {α : Type}

/-- Two drawings with open roots that show the same: they differ at most in what is recorded and expanded. -/
structure Drawing.Matches (first second : Drawing α) : Prop where
  rootSeen : first.document.rootSeen = true
  ledger : first.ledger = second.ledger
  plain : first.document.plain = second.document.plain
  embedded : first.embedded = second.embedded

namespace Document

/-- What characters add to the text that is being laid out, where elements are painted. -/
def readText (document : Document α) (text : String) : Option (TextState α) :=
  if document.isDrawing then
    document.text.map fun state => { state with pending := state.pending ++ text }
  else
    document.text

theorem addText_plain_eq (document : Document α) (text : String) :
    (document.addText text).plain = { document.plain with text := document.readText text } := by
  rw [addText_plain, readText]
  cases htext : document.text with
  | none =>
    have hplain : document.plain.text = none := htext
    simp only [addText, hplain, Option.map_none, ite_self]
    exact congrArg (fun text => { document.plain with text }) htext
  | some state =>
    have hplain : document.plain.text = some state := htext
    have hmode : document.plain.isDrawing = document.isDrawing := rfl
    simp only [addText, hplain, hmode]
    cases document.isDrawing with
    | true => rfl
    | false => exact congrArg (fun text => { document.plain with text }) htext

/-- Characters can be added piece by piece. -/
theorem addText_append (document : Document α) (first second : String) :
    ((document.addText first).addText second).plain = (document.addText (first ++ second)).plain := by
  have hfirst := addText_plain_eq document first
  have htext : (document.addText first).text = document.readText first := congrArg Document.text hfirst
  have hmode : (document.addText first).isDrawing = document.isDrawing := by
    change (document.addText first).plain.isDrawing = _
    rw [hfirst]
    rfl
  have hread : (document.addText first).readText second = document.readText (first ++ second) := by
    rw [readText, htext, hmode, readText, readText]
    cases document.isDrawing with
    | true =>
      simp only [if_true, Option.map_map]
      congr 1
      funext state
      exact congrArg (fun pending => { state with pending }) (String.append_assoc ..)
    | false => simp only [Bool.false_eq_true, if_false]
  calc _ = { (document.addText first).plain with text := (document.addText first).readText second } :=
        addText_plain_eq ..
    _ = { document.plain with text := document.readText (first ++ second) } := by rw [hfirst, hread]
    _ = (document.addText (first ++ second)).plain := (addText_plain_eq ..).symm

theorem addText_empty (document : Document α) : (document.addText "").plain = document.plain := by
  have hread : document.readText "" = document.text := by
    rw [readText]
    simp only [String.append_empty, Option.map_id', ite_self]
  rw [addText_plain_eq, hread]
  rfl

end Document

namespace Drawing.Matches

variable {first second third : Drawing α}

theorem refl (h : first.document.rootSeen = true) : Matches first first := ⟨h, rfl, rfl, rfl⟩

theorem symm (h : Matches first second) : Matches second first where
  rootSeen := (congrArg Document.rootSeen h.plain).symm.trans h.rootSeen
  ledger := h.ledger.symm
  plain := h.plain.symm
  embedded := h.embedded.symm

theorem trans (hfirst : Matches first second) (hsecond : Matches second third) : Matches first third where
  rootSeen := hfirst.rootSeen
  ledger := hfirst.ledger.trans hsecond.ledger
  plain := hfirst.plain.trans hsecond.plain
  embedded := hfirst.embedded.trans hsecond.embedded

/-- A drawing matches what it becomes where only recordings and expansions change. -/
theorem of_plain (h : Matches first second) {document : Document α}
    (hplain : document.plain = second.document.plain) : Matches first { second with document } :=
  ⟨h.rootSeen, h.ledger, h.plain.trans hplain.symm, h.embedded⟩

end Drawing.Matches

/-- Recording aside, a start tag does what its element does. -/
theorem Document.beginTag_plain [Scalar α] (setting : Setting α) (document : Document α) {name : String}
    (attributes : Attributes) (ledger : Ledger α) (hname : ElementKind.ofName name ≠ .use) :
    let begun := document.beginTag setting name attributes ledger
    document.plain.openElement setting (.ofName name) attributes ledger =
      ((begun.1.1.plain, begun.1.2.opening), begun.2) := by
  rw [← recordStart_plain document name attributes (.ofName name), openElement_plain _ _ _ _ hname]
  rfl

namespace Draw

/-- Two results of actions are the same, in drawings that show the same. -/
def Mirrors (first second : Except (Failure α) Unit × Drawing α) : Prop :=
  first.1 = second.1 ∧ first.2.Matches second.2

variable {first second : Drawing α}

theorem Mirrors.symm {result other : Except (Failure α) Unit × Drawing α} (h : Mirrors result other) :
    Mirrors other result := ⟨h.1.symm, h.2.symm⟩

theorem Mirrors.trans {result other third : Except (Failure α) Unit × Drawing α} (hfirst : Mirrors result other)
    (hsecond : Mirrors other third) : Mirrors result third :=
  ⟨hfirst.1.trans hsecond.1, hfirst.2.trans hsecond.2⟩

theorem Mirrors.of_plain {result : Except (Failure α) Unit × Drawing α} {outcome : Except (Failure α) Unit}
    (h : Mirrors result (outcome, second)) {document : Document α}
    (hplain : document.plain = second.document.plain) : Mirrors result (outcome, { second with document }) :=
  ⟨h.1, h.2.of_plain hplain⟩

/-- Actions mirror each other if their parts do. -/
theorem Mirrors.bind {action other next more : Draw α Unit} (h : Mirrors (action first) (other second))
    (hnext : ∀ after behind, after.Matches behind → Mirrors (next after) (more behind)) :
    Mirrors ((action >>= fun _ => next) first) ((other >>= fun _ => more) second) := by
  obtain ⟨hresult, hmatches⟩ := h
  obtain ⟨⟨⟩, after, haction, hbind⟩ | ⟨failure, after, haction, hbind⟩ :=
    bind_cases action (fun _ => next) first
  · obtain ⟨⟨⟩, behind, hother, hbind'⟩ | ⟨failure, behind, hother, hbind'⟩ :=
      bind_cases other (fun _ => more) second
    · rw [haction, hother] at hmatches
      rw [hbind, hbind']
      exact hnext after behind hmatches
    · rw [haction, hother] at hresult
      cases hresult
  · obtain ⟨⟨⟩, behind, hother, hbind'⟩ | ⟨failure', behind, hother, hbind'⟩ :=
      bind_cases other (fun _ => more) second
    · rw [haction, hother] at hresult
      cases hresult
    · rw [haction, hother] at hresult hmatches
      rw [hbind, hbind']
      exact ⟨hresult, hmatches⟩

theorem characters_mirrors (h : first.Matches second) (text : String) :
    Mirrors (characters text first) (characters text second) := by
  refine ⟨rfl, ?_, h.ledger, ?_, h.embedded⟩
  · exact (congrArg Standing.rootSeen (addText_standing first.document text)).trans h.rootSeen
  · change (first.document.addText text).plain = (second.document.addText text).plain
    rw [addText_plain, addText_plain, h.plain]

variable [Scalar α] (setting : Setting α)

theorem endTag_mirrors (h : first.Matches second) (name : String) :
    Mirrors (endTag setting name first) (endTag setting name second) := by
  have helements : first.document.openElements.map OpenElement.plain =
      second.document.openElements.map OpenElement.plain := congrArg Document.openElements h.plain
  cases hfirst : first.document.openElements with
  | nil =>
    rw [hfirst, List.map_nil, eq_comm, List.map_eq_nil_iff] at helements
    rw [endTag_nil setting name hfirst, endTag_nil setting name helements]
    exact ⟨rfl, h⟩
  | cons element outer =>
    rw [hfirst, List.map_cons, eq_comm, List.map_eq_cons_iff] at helements
    obtain ⟨other, others, hsecond, helement, houter⟩ := helements
    have hplain : { first.document with openElements := outer }.plain =
        { second.document with openElements := others }.plain := by
      change { first.document.plain with openElements := outer.map OpenElement.plain } =
        { second.document.plain with openElements := others.map OpenElement.plain }
      rw [h.plain, houter]
    have hended := endElement_plain setting { first.document with openElements := outer } first.ledger element name
    rw [hplain, h.ledger, ← helement, endElement_plain] at hended
    obtain ⟨hdocument, hledger⟩ := Prod.mk.inj hended
    have hends := endElement_ends setting { first.document with openElements := outer } element name first.ledger
    rw [endTag_cons setting name hfirst, endTag_cons setting name hsecond]
    refine ⟨rfl, ?_, ?_, ?_, h.embedded⟩
    · exact (congrArg Standing.rootSeen hends.standing_eq).trans h.rootSeen
    · rw [h.ledger]
      exact hledger.symm
    · rw [h.ledger]
      exact hdocument.symm

theorem carryOut_mirrors (h : first.Matches second) (embed : Option (Embedding α))
    (start other : Option (StartHandler α)) {opening : Opening α}
    (hopening : ∀ id tags, opening ≠ .expansion id tags) (recorded defines : Bool × Bool) :
    Mirrors
      ((carryOut setting embed start opening >>= fun closing =>
        change (·.push ⟨closing, recorded.1, recorded.2⟩)) first)
      ((carryOut setting embed other opening >>= fun closing =>
        change (·.push ⟨closing, defines.1, defines.2⟩)) second) := by
  have hpush (closing : Closing α) (after behind : Drawing α) (hmatches : after.Matches behind) :
      Mirrors (change (·.push ⟨closing, recorded.1, recorded.2⟩) after)
        (change (·.push ⟨closing, defines.1, defines.2⟩) behind) := by
    refine ⟨rfl, hmatches.rootSeen, hmatches.ledger, ?_, hmatches.embedded⟩
    change (after.document.push _).plain = (behind.document.push _).plain
    rw [push_plain, push_plain, hmatches.plain]
    rfl
  cases opening with
  | element closing => exact hpush closing first second h
  | expansion id tags => exact absurd rfl (hopening id tags)
  | embedding inner markup =>
    cases embed with
    | none => exact hpush .nothing first second h
    | some embed =>
      have hdrawn : Mirrors (embedDocument embed inner markup first) (embedDocument embed inner markup second) := by
        simp only [embedDocument, h.ledger]
        split
        · exact ⟨rfl, h.rootSeen, rfl, h.plain, h.embedded⟩
        · exact ⟨rfl, h.rootSeen, rfl, h.plain, congrArg (· ++ _) h.embedded⟩
      have hjoined := hdrawn.bind (hpush .nothing)
      simp only [carryOut, bind_assoc, pure_bind]
      exact hjoined

/-- A start tag other than that of a `use` does the same in drawings that show the same. -/
theorem startTagWith_mirrors (h : first.Matches second) (embed : Option (Embedding α))
    (start other : Option (StartHandler α)) {name : String} (attributes : Attributes)
    (hname : ElementKind.ofName name ≠ .use) :
    Mirrors (startTagWith setting embed start name attributes first)
      (startTagWith setting embed other name attributes second) := by
  have hbegun := beginTag_plain setting first.document attributes first.ledger hname
  have hbegun' := beginTag_plain setting second.document attributes second.ledger hname
  have hopened : first.document.plain.openElement setting (.ofName name) attributes first.ledger =
      second.document.plain.openElement setting (.ofName name) attributes second.ledger := by
    rw [h.plain, h.ledger]
  obtain ⟨hresult, hledger⟩ := Prod.mk.inj (hbegun.symm.trans (hopened.trans hbegun'))
  obtain ⟨hplain, hopening⟩ := Prod.mk.inj hresult
  obtain ⟨recording, hrecords, hopens⟩ := beginTag_eq setting first.document name attributes first.ledger
  have hstanding := hopens.standing_eq.trans hrecords.standing_eq
  have hexpansion (id tags) : (first.document.beginTag setting name attributes first.ledger).1.2.opening ≠
      .expansion id tags := fun hexpands => hname (hexpands ▸ hopens).kind_of_expansion
  have hmatches : Drawing.Matches
      { first with
        document := (first.document.beginTag setting name attributes first.ledger).1.1
        ledger := (first.document.beginTag setting name attributes first.ledger).2 }
      { second with
        document := (second.document.beginTag setting name attributes second.ledger).1.1
        ledger := (second.document.beginTag setting name attributes second.ledger).2 } :=
    ⟨(congrArg Standing.rootSeen hstanding).trans h.rootSeen, hledger, hplain, h.embedded⟩
  rw [startTagWith_apply setting embed start name attributes h.rootSeen,
    startTagWith_apply setting embed other name attributes h.symm.rootSeen, ← hopening]
  exact carryOut_mirrors setting hmatches embed start other hexpansion (_, _) (_, _)

theorem startTag_mirrors (h : first.Matches second) (embed : Option (Embedding α)) (levels others : Nat)
    {name : String} (attributes : Attributes) (hname : ElementKind.ofName name ≠ .use) :
    Mirrors (startTag setting embed levels name attributes first)
      (startTag setting embed others name attributes second) := by
  obtain ⟨start, hstart⟩ := exists_startTagWith setting embed levels
  obtain ⟨other, hother⟩ := exists_startTagWith setting embed others
  rw [hstart, hother]
  exact startTagWith_mirrors setting h embed start other attributes hname

/-- Events without uses do the same as their transcript does where it is replayed. Some characters may have
    been handled already that are still to be replayed. -/
theorem events_mirrors {events : List MarkupEvent} {text : String} (embed : Option (Embedding α)) (levels : Nat)
    (hnames : ∀ name attributes, .startTag name attributes ∈ events → ElementKind.ofName name ≠ .use)
    (h : first.Matches { second with document := second.document.addText text }) :
    Mirrors (Draw.events setting embed events first)
      ((replay setting (startTag setting embed levels) (MarkupEvent.transcript text events).1 >>= fun _ =>
        characters (MarkupEvent.transcript text events).2) second) := by
  induction events generalizing text first second with
  | nil => exact ⟨rfl, h⟩
  | cons event rest ih =>
    have hrest (name : String) (attributes : Attributes) (hmem : .startTag name attributes ∈ rest) :=
      hnames name attributes (List.mem_cons_of_mem _ hmem)
    -- After a tag nothing is left to be replayed.
    have hnext (after behind : Drawing α) (hmatches : after.Matches behind) :
        Mirrors (Draw.events setting embed rest after)
          ((replay setting (startTag setting embed levels) (MarkupEvent.transcript "" rest).1 >>= fun _ =>
            characters (MarkupEvent.transcript "" rest).2) behind) :=
      ih hrest (hmatches.of_plain (addText_empty behind.document))
    cases event with
    | text more =>
      have hmore := (characters_mirrors h more).2
      exact ih hrest (hmore.of_plain (addText_append second.document text more).symm)
    | startTag name attributes =>
      have hname := hnames name attributes List.mem_cons_self
      have hstart := startTag_mirrors setting h embed (useLevels setting first.document) levels attributes hname
      have hjoined := Mirrors.bind hstart hnext
      simp only [MarkupEvent.transcript, replay, bind_assoc]
      exact hjoined
    | endTag name =>
      have hjoined := Mirrors.bind (endTag_mirrors setting h name) hnext
      simp only [MarkupEvent.transcript, replay, bind_assoc]
      exact hjoined

end Draw

end SvgPage
