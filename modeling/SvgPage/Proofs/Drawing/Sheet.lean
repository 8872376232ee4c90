import SvgPage.Drawing.Draw
import SvgPage.Proofs.Content.Numbering
import SvgPage.Proofs.Drawing.Figures

namespace SvgPage

variable {α β : Type}

namespace Ledger

/-- What is kept in a ledger, and after that what is kept in another one. -/
def append (first second : Ledger α) : Ledger α where
  resources := first.resources ++ second.resources
  notices := first.notices ++ second.notices
  runs := first.runs ++ second.runs

/-- How many resources of a kind have been registered. -/
def count (ledger : Ledger α) : ResourceKind → Nat := Resource.count ledger.resources.toList

theorem append_assoc (first second third : Ledger α) :
    (first.append second).append third = first.append (second.append third) := by
  simp only [append, Array.append_assoc]

@[simp] theorem append_empty (ledger : Ledger α) : ledger.append {} = ledger := by
  simp only [append, Array.append_empty]

@[simp] theorem empty_append (ledger : Ledger α) : append {} ledger = ledger := by
  simp only [append, Array.empty_append]

theorem count_append (first second : Ledger α) :
    (first.append second).count = fun kind => first.count kind + second.count kind := by
  funext kind
  rw [count, append, Array.toList_append, Resource.count_append]
  rfl

/-- What is kept in one ledger is kept in the other. -/
def Extends (before after : Ledger α) : Prop := before.resources.toList <+: after.resources.toList

theorem extends_append (ledger added : Ledger α) : ledger.Extends (ledger.append added) := by
  rw [Extends, append, Array.toList_append]
  exact List.prefix_append _ _

end Ledger

/-- An action keeps all resources that have been registered. -/
structure Grows (action : StateM (Ledger α) β) : Prop where
  extends_ledger : ∀ ledger : Ledger α, ledger.Extends (action ledger).2

/-- It does where it only adds to a ledger. -/
theorem Grows.of_append {action : StateM (Ledger α) β} {added : Ledger α}
    (h : ∀ ledger, (action ledger).2 = ledger.append added) : Grows action :=
  ⟨fun ledger => h ledger ▸ ledger.extends_append added⟩

/-- Operators, with what is kept of them in a ledger. They are numbered as if nothing had been registered before,
    and name the resources that are registered with them, each of them once and in order. -/
structure Sheet (α : Type) where
  operators : List (Operator α)
  added : Ledger α
  named : operators.filterMap Operator.resource? = Resource.names added.resources.toList

/-- None of the operators names a resource. -/
def ArePlain (operators : List (Operator α)) : Prop := ∀ operator ∈ operators, operator.resource? = none

theorem ArePlain.nil : ArePlain ([] : List (Operator α)) := List.forall_mem_nil _

theorem ArePlain.append {first second : List (Operator α)} (hfirst : ArePlain first) (hsecond : ArePlain second) :
    ArePlain (first ++ second) := List.forall_mem_append.2 ⟨hfirst, hsecond⟩

theorem ArePlain.singleton {operator : Operator α} (h : operator.resource? = none) : ArePlain [operator] :=
  List.forall_mem_singleton.2 h

theorem ArePlain.filterMap_eq_nil {operators : List (Operator α)} (h : ArePlain operators) :
    operators.filterMap Operator.resource? = [] := List.filterMap_eq_nil_iff.2 h

theorem ArePlain.of_isLimiting {operators : List (Operator α)}
    (h : ∀ operator ∈ operators, operator.isLimiting = true) : ArePlain operators := by
  intro operator hmem
  have hlimiting := h operator hmem
  cases operator <;> first | rfl | cases hlimiting

namespace Sheet

/-- The operators where something has been registered before. -/
def after (sheet : Sheet α) (ledger : Ledger α) : List (Operator α) :=
  sheet.operators.map (Operator.renumber ledger.count)

theorem after_append (sheet : Sheet α) (first second : Ledger α) :
    sheet.after (first.append second) = (sheet.after second).map (Operator.renumber first.count) := by
  rw [after, after, List.map_map, Ledger.count_append]
  exact List.map_congr_left fun operator _ => (operator.renumber_renumber _ _).symm

/-- What is registered is named, where something has been registered before. -/
theorem names_append (sheet : Sheet α) (ledger : Ledger α) :
    Resource.names (ledger.append sheet.added).resources.toList =
      Resource.names ledger.resources.toList ++ (sheet.after ledger).filterMap Operator.resource? := by
  rw [Ledger.append, Array.toList_append, Resource.names_append, after, filterMap_resource?_renumber, sheet.named]
  rfl

/-- Operators that name no resources. -/
def plain (operators : List (Operator α)) (h : ArePlain operators) : Sheet α where
  operators
  added := {}
  named := h.filterMap_eq_nil

theorem plain_after {operators : List (Operator α)} (h : ArePlain operators) (ledger : Ledger α) :
    (plain operators h).after ledger = operators := map_renumber_of_plain h _

/-- Nothing but notices and runs of text. -/
def telling (added : Ledger α) (h : added.resources = #[]) : Sheet α where
  operators := []
  added
  named := by
    rw [h]
    rfl

/-- What is on one sheet, and after that what is on another one. -/
def append (first second : Sheet α) : Sheet α where
  operators := first.operators ++ second.after first.added
  added := first.added.append second.added
  named := by
    rw [List.filterMap_append, first.named, ← names_append]

theorem append_after (first second : Sheet α) (ledger : Ledger α) :
    (first.append second).after ledger = first.after ledger ++ second.after (ledger.append first.added) := by
  rw [after_append, append, after, List.map_append]
  rfl

end Sheet

/-- An action whose result does not depend on the ledger, and which registers nothing. -/
def Tells (action : StateM (Ledger α) β) : Prop :=
  ∃ result added, added.resources = #[] ∧ ∀ ledger : Ledger α, action ledger = (result, ledger.append added)

namespace Tells

variable {γ : Type} {action : StateM (Ledger α) β}

theorem grows (haction : Tells action) : Grows action := by
  obtain ⟨result, added, -, hresult⟩ := haction
  exact .of_append fun ledger => congrArg Prod.snd (hresult ledger)

theorem pure (result : β) : Tells (pure result : StateM (Ledger α) β) :=
  ⟨result, {}, rfl, fun ledger => by rw [Ledger.append_empty, pure_apply]⟩

theorem notify (notice : Notice α) : Tells (Ledger.notify notice) := by
  refine ⟨(), { notices := #[notice] }, rfl, fun ledger => ?_⟩
  simp only [Ledger.notify, Ledger.append, Array.append_empty, Array.append_singleton]

theorem layOut (run : TextRun α) : Tells (Ledger.layOut run) := by
  refine ⟨(), { runs := #[run] }, rfl, fun ledger => ?_⟩
  simp only [Ledger.layOut, Ledger.append, Array.append_empty, Array.append_singleton]

theorem bind {next : β → StateM (Ledger α) γ} (haction : Tells action) (hnext : ∀ result, Tells (next result)) :
    Tells (action >>= next) := by
  obtain ⟨result, added, hnone, hresult⟩ := haction
  obtain ⟨last, more, hmore, hlast⟩ := hnext result
  refine ⟨last, added.append more, ?_, fun ledger => ?_⟩
  · rw [Ledger.append, hnone, hmore]
    rfl
  · rw [bind_apply, hresult, hlast, Ledger.append_assoc]

variable [Scalar α]

theorem clipRegion (setting : Setting α) (document : Document α) (style : Style α) (box : Option (Box α)) :
    Tells (SvgPage.clipRegion setting document style box) := by
  unfold SvgPage.clipRegion
  split
  · exact (pure _).bind fun _ => .pure _
  · dsimp only
    split
    · exact (notify _).bind fun _ => (pure _).bind fun _ => .pure _
    · exact (pure _).bind fun _ => .pure _

theorem ofColor (token : String) : Tells (ResolvedPaint.ofColor (α := α) token) := by
  unfold ResolvedPaint.ofColor
  split
  · exact .pure _
  · exact (notify _).bind fun _ => .pure _

theorem readPaint (setting : Setting α) (document : Document α) (value : String) (style : Style α)
    (box : Box α) : Tells (ResolvedPaint.read setting document value style box) := by
  unfold ResolvedPaint.read
  split
  · exact .pure _
  · exact ofColor _
  · dsimp only
    split
    · exact .pure _
    · split
      · exact ofColor _
      · exact (notify _).bind fun _ => .pure _

omit [Scalar α] in
theorem leaveOut (notice : Notice α) : Tells (Opening.leaveOut notice) := (notify _).bind fun _ => .pure _

theorem openUse (setting : Setting α) (document : Document α) (attributes : Attributes) :
    Tells (document.openUse setting attributes) := by
  simp only [Document.openUse]
  split
  · exact leaveOut _
  · exact leaveOut _
  · split
    · exact leaveOut _
    · split
      · exact leaveOut _
      · split <;> exact .pure _

theorem openEmbedded (setting : Setting α) (href : String) (box : Box α) (matrix : Matrix α) :
    Tells (Document.openEmbedded setting href box matrix) := by
  unfold Document.openEmbedded
  split
  · exact leaveOut _
  · split
    · exact leaveOut _
    · exact .pure _

end Tells

theorem ArePlain.clipRegion [Scalar α] (setting : Setting α) (document : Document α) (style : Style α)
    (box : Option (Box α)) (ledger : Ledger α) : ArePlain (clipRegion setting document style box ledger).1 :=
  .of_isLimiting (isLimiting_clipRegion setting document style box ledger)

theorem ArePlain.transform [Scalar α] (matrix : Matrix α) (pageHeight : α) :
    ArePlain (matrix.operators pageHeight) := by
  rw [Matrix.operators]
  split
  · exact .nil
  · exact .singleton rfl

theorem ArePlain.outline [Scalar α] {outline : List (Operator α)}
    (h : outline.all Operator.isConstruction = true) : ArePlain outline :=
  .of_isLimiting fun operator hmem => Operator.isLimiting_of_isConstruction (List.all_eq_true.1 h operator hmem)

/-- An action that writes the same operators whatever has been registered before, but for their numbers. -/
def Fills (action : StateM (Ledger α) (List (Operator α))) : Prop :=
  ∃ sheet : Sheet α, ∀ ledger, action ledger = (sheet.after ledger, ledger.append sheet.added)

namespace Fills

variable {action second : StateM (Ledger α) (List (Operator α))} {before behind : List (Operator α)}

theorem grows (haction : Fills action) : Grows action := by
  obtain ⟨sheet, hsheet⟩ := haction
  exact .of_append fun ledger => congrArg Prod.snd (hsheet ledger)

theorem plain (h : ArePlain before) : Fills (Pure.pure before : StateM (Ledger α) _) :=
  ⟨.plain before h, fun ledger => by rw [Sheet.plain_after, pure_apply]; exact congrArg _ ledger.append_empty.symm⟩

/-- A resource is registered and named at once. -/
theorem register (resource : Resource α) {operator : Nat → Operator α}
    (hnames : ∀ number, (operator number).resource? = some ⟨resource.kind, number⟩)
    (hnumber : ∀ number earlier, (operator number).renumber earlier = operator (number + earlier resource.kind)) :
    Fills (Ledger.register resource >>= fun number => Pure.pure [operator number]) := by
  have hnamed : [operator 1].filterMap Operator.resource? = Resource.names [resource] := by
    rw [Resource.names_singleton, List.filterMap_cons_some (hnames 1), List.filterMap_nil]
  refine ⟨⟨[operator 1], { resources := #[resource] }, hnamed⟩, fun ledger => ?_⟩
  simp only [bind_apply, pure_apply, Ledger.register, Sheet.after, List.map_singleton, hnumber,
    Resource.numberAfter_eq, Ledger.append, Array.append_empty, Array.append_singleton, Ledger.count, Nat.add_comm 1]

theorem of_tells {told : StateM (Ledger α) β} {next : β → StateM (Ledger α) (List (Operator α))}
    (htold : Tells told) (hnext : ∀ ledger, Fills (next (told ledger).1)) : Fills (told >>= next) := by
  obtain ⟨result, added, hnone, hresult⟩ := htold
  obtain ⟨sheet, hsheet⟩ := hnext {}
  rw [hresult] at hsheet
  refine ⟨(Sheet.telling added hnone).append sheet, fun ledger => ?_⟩
  rw [bind_apply, hresult, hsheet, Sheet.append_after, Ledger.append_assoc]
  rfl

/-- Something may be told afterwards. -/
theorem before_tells (haction : Fills action) {told : StateM (Ledger α) β} (htold : Tells told) :
    Fills (action >>= fun operators => told >>= fun _ => Pure.pure operators) := by
  obtain ⟨sheet, hsheet⟩ := haction
  obtain ⟨result, added, hnone, hresult⟩ := htold
  refine ⟨sheet.append (.telling added hnone), fun ledger => ?_⟩
  rw [bind_apply, hsheet, bind_apply, hresult, pure_apply, Sheet.append_after, Ledger.append_assoc]
  exact congrArg (·, _) (List.append_nil _).symm

theorem append (haction : Fills action) (hsecond : Fills second) :
    Fills (action >>= fun first => second >>= fun rest => Pure.pure (first ++ rest)) := by
  obtain ⟨sheet, hsheet⟩ := haction
  obtain ⟨other, hother⟩ := hsecond
  refine ⟨sheet.append other, fun ledger => ?_⟩
  simp only [bind_apply, pure_apply, hsheet, hother, Sheet.append_after, Ledger.append_assoc]
  rfl

/-- Operators that name no resources may stand around others. -/
theorem framed (haction : Fills action) (hbefore : ArePlain before) (hbehind : ArePlain behind)
    {frame : List (Operator α) → List (Operator α)} (hframe : ∀ inner, frame inner = before ++ inner ++ behind) :
    Fills (action >>= fun inner => Pure.pure (frame inner)) := by
  obtain ⟨sheet, hsheet⟩ := haction
  refine ⟨((Sheet.plain before hbefore).append sheet).append (.plain behind hbehind), fun ledger => ?_⟩
  have hempty : (Sheet.plain before hbefore).added = {} := rfl
  simp only [bind_apply, pure_apply, hsheet, hframe, Sheet.append_after, Sheet.plain_after, hempty,
    Ledger.append_empty]
  simp only [Sheet.append, hempty, Ledger.empty_append]
  exact congrArg (_, ledger.append ·) (Ledger.append_empty _).symm

theorem framed_append (haction : Fills action) (hsecond : Fills second) (hbefore : ArePlain before)
    (hbehind : ArePlain behind) {join : List (Operator α) → List (Operator α) → List (Operator α)}
    (hjoin : ∀ first rest, join first rest = before ++ first ++ rest ++ behind) :
    Fills (action >>= fun first => second >>= fun rest => Pure.pure (join first rest)) := by
  have hframed := (haction.append hsecond).framed hbefore hbehind fun _ => rfl
  have hsame (first rest : List (Operator α)) : join first rest = before ++ (first ++ rest) ++ behind := by
    rw [hjoin, List.append_assoc before]
  simp only [hsame]
  exact hframed

variable [Scalar α]

theorem graphicsState (frame : Frame α) (style : Style α) (fillAlpha strokeAlpha : α) :
    Fills (SvgPage.graphicsState frame style fillAlpha strokeAlpha) := by
  unfold SvgPage.graphicsState
  split
  · exact .plain .nil
  · exact .register _ (fun _ => rfl) fun _ _ => rfl

omit [Scalar α] in
theorem imageOperators (placement : Matrix α) (bytes : List UInt8) :
    Fills (SvgPage.imageOperators placement bytes) := by
  have hplaced : ArePlain [.save, .transform placement] := (ArePlain.singleton rfl).append (.singleton rfl)
  have himage : Fills (Ledger.register (.image bytes) >>= fun number => Pure.pure [(.image number : Operator α)]) :=
    .register _ (fun _ => rfl) fun _ _ => rfl
  exact himage.framed hplaced (.singleton rfl) fun _ => rfl

theorem shadingOperators (gradient : ResolvedGradient α) : Fills (SvgPage.shadingOperators gradient) := by
  unfold SvgPage.shadingOperators
  split
  · exact .plain .nil
  next shading hshading =>
    have hplaced : ArePlain [.transform gradient.placement] := .singleton rfl
    have hshaded : Fills (Ledger.register (.shading shading) >>= fun number =>
        Pure.pure [(.shading number : Operator α)]) :=
      .register _ (fun _ => rfl) fun _ _ => rfl
    exact hshaded.framed hplaced .nil fun _ => (List.append_nil _).symm

theorem paintOperators {outline : List (Operator α)} (houtline : ArePlain outline) (evenOdd : Bool)
    (fill stroke : ResolvedPaint α) (lineStyle : LineStyle α) :
    Fills (SvgPage.paintOperators outline evenOdd fill stroke lineStyle) := by
  have hpen (resolved : ResolvedColor α) : ArePlain [.lineStyle lineStyle, .strokeColor resolved.color] :=
    (ArePlain.singleton rfl).append (.singleton rfl)
  have hpainted (operator : PaintOperator) : ArePlain (outline ++ [.paint operator]) :=
    houtline.append (.singleton rfl)
  have harea (resolved : ResolvedColor α) (operator : PaintOperator) :
      ArePlain ([.fillColor resolved.color] ++ outline ++ [.paint operator]) :=
    ((ArePlain.singleton rfl).append houtline).append (.singleton rfl)
  cases fill with
  | gradient gradient =>
    have hbefore : ArePlain ([.save] ++ outline ++ [.paint (if evenOdd then .clipEvenOdd else .clip)]) :=
      ((ArePlain.singleton rfl).append houtline).append (.singleton rfl)
    have hrestore : ArePlain [(.restore : Operator α)] := .singleton rfl
    have hshaded := (shadingOperators gradient).framed hbefore hrestore fun _ => rfl
    cases stroke with
    | color line => exact hshaded.framed .nil ((hpen line).append (hpainted _)) fun _ => List.append_assoc ..
    | _ => exact hshaded.framed .nil (ArePlain.nil.append .nil) fun _ => List.append_assoc ..
  | color area =>
    cases stroke with
    | color line => exact .plain ((ArePlain.nil.append (hpen line)).append (harea area _))
    | _ => exact .plain ((ArePlain.nil.append .nil).append (harea area _))
  | none =>
    cases stroke with
    | color line => exact .plain ((ArePlain.nil.append (hpen line)).append (hpainted _))
    | _ => exact .plain ((ArePlain.nil.append .nil).append .nil)

theorem paintPath (setting : Setting α) (document : Document α) (path : Path α) (style : Style α)
    (transform : Matrix α) : Fills (SvgPage.paintPath setting document path style transform) := by
  have houtline := ArePlain.outline (path.operators_isConstruction setting.pageHeight .identity)
  have hsave : ArePlain [(.save : Operator α)] := .singleton rfl
  have hrestore : ArePlain [(.restore : Operator α)] := .singleton rfl
  unfold SvgPage.paintPath
  refine .of_tells (.readPaint ..) fun _ => .of_tells (.readPaint ..) fun _ => ?_
  dsimp only
  split
  · exact .plain .nil
  · refine .of_tells (.clipRegion ..) fun ledger => ?_
    let box := if path.boundingBox.isEmpty then none else some path.boundingBox.toBox
    have hclipped := (hsave.append (.transform transform setting.pageHeight)).append
      (.clipRegion setting document style box ledger)
    exact (graphicsState ..).framed_append (paintOperators houtline ..) hclipped hrestore fun _ _ => rfl

theorem showRun (frame : Frame α) (run : TextRun α) (color : DeviceColor α) (colorAlpha : α) :
    Fills (SvgPage.showRun frame run color colorAlpha) := by
  have hrun : ArePlain (.fillColor color :: run.operators) := by
    simp [ArePlain, TextRun.operators, Operator.resource?]
  have hsave : ArePlain [(.save : Operator α)] := .singleton rfl
  have hrestore : ArePlain [(.restore : Operator α)] := .singleton rfl
  unfold SvgPage.showRun SvgPage.graphicsState
  dsimp only
  split
  · exact .plain hrun
  · have hstate (blendMode : BlendMode) (alpha : α) : Fills
        (Ledger.register (.graphicsState alpha alpha blendMode) >>= fun number =>
          Pure.pure [(.graphicsState number : Operator α)]) :=
      .register _ (fun _ => rfl) fun _ _ => rfl
    have hframed (blendMode : BlendMode) (alpha : α) := (hstate blendMode alpha).framed
      hsave (hrun.append hrestore) fun _ => (List.append_assoc ..).symm
    exact hframed ..

theorem paintRun (frame : Frame α) (run : TextRun α) : Fills (SvgPage.paintRun frame run) := by
  unfold SvgPage.paintRun
  dsimp only
  split
  · exact .plain .nil
  · split
    · exact .plain .nil
    · exact showRun ..
    · split
      · exact showRun ..
      · exact .of_tells (.notify _) fun _ => .plain .nil

end Fills

/-! ## Resources that are allowed -/

/-- All resources that have been registered have a property. -/
def Ledger.All (allowed : Resource α → Prop) (ledger : Ledger α) : Prop :=
  ∀ resource ∈ ledger.resources, allowed resource

/-- An action that registers no resources but those that are allowed, and whose results have a property. -/
structure Registers (allowed : Resource α → Prop) (action : StateM (Ledger α) β) (property : β → Prop) : Prop where
  result : ∀ ledger, property (action ledger).1
  ledger : ∀ {ledger}, ledger.All allowed → (action ledger).2.All allowed

namespace Registers

variable {γ : Type} {allowed : Resource α → Prop} {action : StateM (Ledger α) β} {next : β → StateM (Ledger α) γ}
  {property : β → Prop} {property' : γ → Prop} {result : β}

theorem pure (h : property result) : Registers allowed (pure result) property := ⟨fun _ => h, id⟩

theorem bind (haction : Registers allowed action property)
    (hnext : ∀ result, property result → Registers allowed (next result) property') :
    Registers allowed (action >>= next) property' where
  result ledger := (hnext _ (haction.result ledger)).result _
  ledger {ledger} hledger := (hnext _ (haction.result ledger)).ledger (haction.ledger hledger)

theorem of_tells (htells : Tells action) (h : ∀ ledger, property (action ledger).1) :
    Registers allowed action property where
  result := h
  ledger {ledger} hledger := by
    obtain ⟨result, added, hnone, hresult⟩ := htells
    rw [hresult]
    intro resource hmem
    rw [Ledger.append, hnone, Array.append_empty] at hmem
    exact hledger resource hmem

theorem tells (htells : Tells action) : Registers allowed action fun _ => True := of_tells htells fun _ => trivial

theorem register {resource : Resource α} (h : allowed resource) :
    Registers allowed (Ledger.register resource) fun _ => True where
  result _ := trivial
  ledger hledger other hmem := by
    obtain hold | rfl := Array.mem_push.1 hmem
    · exact hledger other hold
    · exact h

end Registers

end SvgPage
