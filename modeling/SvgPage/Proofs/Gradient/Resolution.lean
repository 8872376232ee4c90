import Mathlib.Data.List.Basic
import SvgPage.Gradient.Resolve
import SvgPage.Proofs.Color.Read
import SvgPage.Proofs.Gradient.Chain
import SvgPage.Proofs.Numeric.Ordered
import SvgPage.Proofs.Numeric.UnitInterval

namespace SvgPage

section Sorting

variable {α : Type} [Scalar α]

/-- Whether the offset of a stop is a number. -/
def GradientStop.IsNumbered (stop : GradientStop α) : Prop := (stop.offset == stop.offset) = true

/-- The offset of a stop is read as a number from zero to one. -/
theorem isAlpha_readStopOffset [Scalar.Bounded α] [Scalar.Complemented α] (value : String) :
    Scalar.IsAlpha (readStopOffset value : α) := by
  unfold readStopOffset
  cases hnumber : readNumber? (α := α) (Text.trim value) with
  | none =>
    simp only [hnumber]
    exact Scalar.Complemented.isAlpha_zero
  | some number =>
    simp only [hnumber]
    have hfinite := readNumber?_isFinite hnumber
    refine Scalar.Bounded.isAlpha_clamp ?_
    split
    · exact Scalar.Bounded.beq_self_div hfinite (by decide : 0 < 100) (by decide : 100 ≤ 255)
    · exact Scalar.Bounded.beq_self hfinite

/-- So no stop that is read is left out of the order of offsets. -/
theorem beq_self_readStopOffset [Scalar.Bounded α] [Scalar.Complemented α] [Scalar.Ordered α] (value : String) :
    ((readStopOffset value : α) == readStopOffset value) = true :=
  (Scalar.Ordered.beq_self_of_le _ _ (isAlpha_readStopOffset value).1).2

namespace Gradient

theorem perm_sortStops (stops : List (GradientStop α)) : (sortStops stops).Perm stops := List.mergeSort_perm _ _

section Order

variable [Scalar.Ordered α] {stops : List (GradientStop α)}

/-- Stops with offsets that are numbers, in the order of their offsets. -/
def isInOrder (first second : {stop : GradientStop α // stop.IsNumbered}) : Bool :=
  decide (first.1.offset ≤ second.1.offset)

theorem isInOrder_trans (first second third : {stop : GradientStop α // stop.IsNumbered})
    (h : isInOrder first second = true) (h' : isInOrder second third = true) : isInOrder first third = true := by
  rw [isInOrder, decide_eq_true_iff] at *
  exact Scalar.Ordered.le_trans _ _ _ h h'

theorem isInOrder_total (first second : {stop : GradientStop α // stop.IsNumbered}) :
    (isInOrder first second || isInOrder second first) = true := by
  rw [isInOrder, isInOrder, Bool.or_eq_true, decide_eq_true_iff, decide_eq_true_iff]
  exact Scalar.Ordered.le_total _ _ first.2 second.2

/-- Where all offsets are numbers, the stops are sorted by an order without gaps. -/
theorem sortStops_eq (h : ∀ stop ∈ stops, stop.IsNumbered) :
    sortStops stops = ((stops.attachWith _ h).mergeSort isInOrder).map Subtype.val := by
  have horder (first second : {stop : GradientStop α // stop.IsNumbered}) :
      isInOrder first second = !decide (second.1.offset < first.1.offset) := by
    rw [isInOrder, ← decide_not, decide_eq_decide, Scalar.Ordered.lt_iff, not_and_not_right]
    refine ⟨fun hle _ => hle, fun hle => ?_⟩
    exact (Scalar.Ordered.le_total _ _ first.2 second.2).elim (fun hle => hle) hle
  have hsorted := List.map_mergeSort (f := Subtype.val) (l := stops.attachWith _ h)
    (s := fun first second : GradientStop α => !decide (second.offset < first.offset))
    fun first _ second _ => horder first second
  rw [hsorted, List.attachWith_map_subtype_val]
  rfl

/-- No stop comes before one with a smaller offset. -/
theorem pairwise_sortStops (h : ∀ stop ∈ stops, stop.IsNumbered) :
    (sortStops stops).Pairwise fun first second => first.offset ≤ second.offset := by
  rw [sortStops_eq h, List.pairwise_map]
  refine (List.pairwise_mergeSort isInOrder_trans isInOrder_total _).imp fun hle => ?_
  exact decide_eq_true_iff.1 hle

/-- Stops of one offset keep their order. -/
theorem filter_sortStops (h : ∀ stop ∈ stops, stop.IsNumbered) (x : α) :
    (sortStops stops).filter (·.offset == x) = stops.filter (·.offset == x) := by
  let isAt (stop : {stop : GradientStop α // stop.IsNumbered}) : Bool := stop.1.offset == x
  let attached := stops.attachWith _ h
  have hordered : (attached.filter isAt).Pairwise fun first second => isInOrder first second = true := by
    refine List.pairwise_of_forall_mem_list fun first hfirst second hsecond => ?_
    have hfirstAt := (Scalar.Ordered.beq_iff _ _).1 (List.mem_filter.1 hfirst).2
    have hsecondAt := (Scalar.Ordered.beq_iff _ _).1 (List.mem_filter.1 hsecond).2
    rw [isInOrder, decide_eq_true_iff]
    exact Scalar.Ordered.le_trans _ _ _ hfirstAt.1 hsecondAt.2
  have hkept : (attached.filter isAt).Sublist ((attached.mergeSort isInOrder).filter isAt) := by
    have hsublist := List.sublist_mergeSort isInOrder_trans isInOrder_total hordered List.filter_sublist
    simpa using hsublist.filter isAt
  have hlength : (attached.filter isAt).length = ((attached.mergeSort isInOrder).filter isAt).length :=
    ((List.mergeSort_perm attached isInOrder).filter isAt).length_eq.symm
  have hstops : attached.map Subtype.val = stops := List.attachWith_map_subtype_val h
  calc (sortStops stops).filter (·.offset == x)
      = ((attached.mergeSort isInOrder).filter isAt).map Subtype.val := by
        rw [sortStops_eq h, List.filter_map]
        rfl
    _ = (attached.filter isAt).map Subtype.val := by rw [hkept.eq_of_length hlength]
    _ = (attached.map Subtype.val).filter (·.offset == x) := by
        rw [List.filter_map]
        rfl
    _ = stops.filter (·.offset == x) := by rw [hstops]

end Order

end Gradient

end Sorting

variable {α : Type}

def GradientGeometry.kind : GradientGeometry α → GradientKind
  | linear .. => .linear
  | radial .. => .radial

/-- The map of the unit square to the box that is painted, on the page. -/
def GradientTarget.placement [Scalar α] (target : GradientTarget α) : Matrix α :=
  ⟨target.box.width, 0, 0, target.box.height, target.box.x, target.pageHeight - target.box.y - target.box.height⟩

namespace Gradient

section Parts

/-- The first gradient of a chain that has stops. -/
inductive GivesStops : List (Gradient α) → Gradient α → Prop
  | here {gradient rest} : gradient.stops ≠ [] → GivesStops (gradient :: rest) gradient
  | later {gradient rest source} : gradient.stops = [] → GivesStops rest source → GivesStops (gradient :: rest) source

/-- The units that the first gradient of a chain declares that declares any. -/
inductive GivesUnits : List (Gradient α) → GradientUnits → Prop
  | default : GivesUnits [] .boundingBox
  | here {gradient rest units} : gradient.units = some units → GivesUnits (gradient :: rest) units
  | later {gradient rest units} : gradient.units = none → GivesUnits rest units → GivesUnits (gradient :: rest) units

variable {chain : List (Gradient α)} {source : Gradient α} {units : GradientUnits}

theorem givesStops_iff :
    GivesStops chain source ↔ chain.find? (fun gradient => !gradient.stops.isEmpty) = some source := by
  induction chain with
  | nil => exact iff_of_false (fun h => by cases h) (by simp)
  | cons gradient rest ih =>
    rw [List.find?_cons]
    by_cases hstops : gradient.stops = []
    · rw [hstops]
      refine Iff.trans ⟨fun h => ?_, .later hstops⟩ ih
      cases h with
      | here hsome => exact absurd hstops hsome
      | later _ hrest => exact hrest
    · have hsome : (!gradient.stops.isEmpty) = true := by simp [hstops]
      rw [hsome]
      constructor
      · intro h
        cases h with
        | here => rfl
        | later hnone => exact absurd hnone hstops
      · rintro ⟨⟩
        exact .here hstops

theorem exists_givesStops_iff : (∃ source, GivesStops chain source) ↔ ∃ gradient ∈ chain, gradient.stops ≠ [] := by
  simp only [givesStops_iff, ← Option.isSome_iff_exists, List.find?_isSome, Bool.not_eq_true',
    List.isEmpty_eq_false_iff]

theorem givesUnits_iff : GivesUnits chain units ↔ (chain.findSome? Gradient.units).getD .boundingBox = units := by
  induction chain with
  | nil =>
    constructor
    · rintro ⟨⟩
      rfl
    · rintro ⟨⟩
      exact .default
  | cons gradient rest ih =>
    rw [List.findSome?_cons]
    cases hunits : gradient.units with
    | none =>
      refine Iff.trans ⟨fun h => ?_, .later hunits⟩ ih
      cases h with
      | here hsome => rw [hunits] at hsome; cases hsome
      | later _ hrest => exact hrest
    | some declared =>
      constructor
      · intro h
        cases h with
        | here hsome => rw [hunits] at hsome; cases hsome; rfl
        | later hnone => rw [hunits] at hnone; cases hnone
      · rintro ⟨⟩
        exact .here hunits

end Parts

variable [Scalar α]

/-- A gradient as it is read where its coordinates have the given units. -/
def reading (gradient : Gradient α) (units : GradientUnits) (target : GradientTarget α) : Reading α :=
  let mode := coordinateMode α gradient.kind gradient.attributes
  ⟨gradient, target, mode, mode == .measure && units == .userSpace⟩

section Fields

variable (gradient : Gradient α) (units : GradientUnits) (target : GradientTarget α)

@[simp] theorem reading_gradient : (gradient.reading units target).gradient = gradient := by rw [reading]

@[simp] theorem reading_target : (gradient.reading units target).target = target := by rw [reading]

@[simp] theorem reading_mode :
    (gradient.reading units target).mode = coordinateMode α gradient.kind gradient.attributes := by rw [reading]

@[simp] theorem reading_userSpace :
    (gradient.reading units target).userSpace =
      (coordinateMode α gradient.kind gradient.attributes == .measure && units == .userSpace) := by
  rw [reading]

@[simp] theorem reading_transform :
    (gradient.reading units target).transform = gradient.transform.getD .identity := by
  rw [Reading.transform, reading_gradient]

end Fields

theorem Reading.kind_geometry (reading : Reading α) : reading.geometry.kind = reading.gradient.kind := by
  rw [geometry]
  cases reading.gradient.kind with
  | linear =>
    dsimp only
    split <;> rfl
  | radial => rfl

/-- What a gradient is painted as: itself, read in the first units that are declared where it leads to, with the
    first stops that are found there. -/
structure PaintsAs (gradients : Table (Gradient α)) (id : String) (target : GradientTarget α)
    (resolved : ResolvedGradient α) (gradient source : Gradient α) (units : GradientUnits) : Prop where
  get?_eq : gradients.get? id = some gradient
  givesStops : GivesStops (chain gradients id) source
  givesUnits : GivesUnits (chain gradients id) units
  stops_eq : resolved.stops = sortStops source.stops
  geometry_eq : resolved.geometry = (gradient.reading units target).geometry
  placement_eq : resolved.placement = target.placement

variable {gradients : Table (Gradient α)} {id : String} {target : GradientTarget α} {resolved : ResolvedGradient α}

theorem resolve?_eq_some_iff :
    resolve? gradients id target = some resolved ↔
      ∃ gradient source units, PaintsAs gradients id target resolved gradient source units := by
  constructor
  · intro h
    obtain ⟨gradient, hgradient, hfound⟩ := Option.bind_eq_some_iff.1 h
    obtain ⟨source, hsource, hresolved⟩ := Option.bind_eq_some_iff.1 hfound
    cases hresolved
    exact ⟨gradient, source, _, (head?_chain gradients id).symm.trans hgradient, givesStops_iff.2 hsource,
      givesUnits_iff.2 rfl, rfl, rfl, rfl⟩
  · rintro ⟨gradient, source, units, h⟩
    refine Option.bind_eq_some_iff.2 ⟨gradient, (head?_chain gradients id).trans h.get?_eq, ?_⟩
    refine Option.bind_eq_some_iff.2 ⟨source, givesStops_iff.1 h.givesStops, ?_⟩
    rw [givesUnits_iff.1 h.givesUnits]
    obtain ⟨geometry, placement, stops⟩ := resolved
    obtain rfl : stops = _ := h.stops_eq
    obtain rfl : geometry = _ := h.geometry_eq
    obtain rfl : placement = _ := h.placement_eq
    rfl

/-- A gradient is painted just if it is there and some gradient it leads to has stops. -/
theorem resolve?_isSome_iff :
    (resolve? gradients id target).isSome = true ↔
      ∃ other gradient, Reaches gradients id other ∧ gradients.get? other = some gradient ∧ gradient.stops ≠ [] := by
  have hchain : (∃ gradient ∈ chain gradients id, gradient.stops ≠ []) ↔
      ∃ other gradient, Reaches gradients id other ∧ gradients.get? other = some gradient ∧ gradient.stops ≠ [] := by
    simp only [mem_chain_iff]
    constructor
    · rintro ⟨gradient, ⟨other, hreaches, hget⟩, hstops⟩
      exact ⟨other, gradient, hreaches, hget, hstops⟩
    · rintro ⟨other, gradient, hreaches, hget, hstops⟩
      exact ⟨gradient, ⟨other, hreaches, hget⟩, hstops⟩
  rw [← hchain, ← exists_givesStops_iff, Option.isSome_iff_exists]
  constructor
  · rintro ⟨resolved, hresolved⟩
    obtain ⟨gradient, source, units, h⟩ := resolve?_eq_some_iff.1 hresolved
    exact ⟨source, h.givesStops⟩
  · rintro ⟨source, hsource⟩
    cases hget : gradients.get? id with
    | none =>
      have hempty := List.head?_eq_none_iff.1 ((head?_chain gradients id).trans hget)
      rw [hempty] at hsource
      cases hsource
    | some gradient =>
      exact ⟨⟨_, target.placement, _⟩,
        resolve?_eq_some_iff.2 ⟨gradient, source, _, hget, hsource, givesUnits_iff.2 rfl, rfl, rfl, rfl⟩⟩

/-- References are followed from an id on until they lead nowhere or back: each gradient that is reached is met once,
    after the one that refers to it, and no other is met. There is nothing to paint just if the id is unknown or no
    gradient that is reached has stops. Else the gradient itself is painted, in the first units that are met and with
    the first stops: all of them, in the order of their offsets, and in their own order where the offsets are the
    same. -/
theorem paintsAs_of_reached [Scalar.Ordered α] (gradients : Table (Gradient α)) (id : String)
    (target : GradientTarget α) :
    (∃ ids : List String, ids.map gradients.get? = (chain gradients id).map some ∧ (∀ first ∈ ids.head?, first = id) ∧
        ids.IsChain (Refers gradients) ∧ ids.Nodup ∧
        ∀ other, other ∈ ids ↔ gradients.contains other = true ∧ Reaches gradients id other) ∧
      (resolve? gradients id target = none ↔ gradients.get? id = none ∨
        ∀ other gradient, Reaches gradients id other → gradients.get? other = some gradient → gradient.stops = []) ∧
      ∀ resolved, resolve? gradients id target = some resolved → ∃ gradient source units,
        PaintsAs gradients id target resolved gradient source units ∧ resolved.geometry.kind = gradient.kind ∧
          resolved.stops.Perm source.stops ∧
          ((∀ stop ∈ source.stops, stop.IsNumbered) →
            resolved.stops.Pairwise (fun first second => first.offset ≤ second.offset) ∧
              ∀ x, resolved.stops.filter (·.offset == x) = source.stops.filter (·.offset == x)) := by
  refine ⟨?_, ?_, ?_⟩
  · obtain ⟨ids, h⟩ := exists_follows gradients id
    refine ⟨ids, h.found, fun first hfirst => ?_, h.linked, h.nodup, fun other => h.mem_iff⟩
    rw [h.head?_eq] at hfirst
    split at hfirst
    · exact (Option.some.inj hfirst).symm
    · cases hfirst
  · rw [← Option.not_isSome_iff_eq_none, resolve?_isSome_iff]
    constructor
    · intro hnone
      refine .inr fun other gradient hreaches hget => ?_
      by_contra hstops
      exact hnone ⟨other, gradient, hreaches, hget, hstops⟩
    · rintro (hunknown | hempty) ⟨other, gradient, hreaches, hget, hstops⟩
      · obtain rfl | ⟨next, ⟨first, hfirst, -⟩, -⟩ := Relation.ReflTransGen.cases_head hreaches
        · rw [hunknown] at hget
          cases hget
        · rw [hunknown] at hfirst
          cases hfirst
      · exact hstops (hempty other gradient hreaches hget)
  · intro resolved hresolved
    obtain ⟨gradient, source, units, h⟩ := resolve?_eq_some_iff.1 hresolved
    refine ⟨gradient, source, units, h, ?_, ?_, fun hnumbered => ⟨?_, fun x => ?_⟩⟩
    · rw [h.geometry_eq]
      exact Reading.kind_geometry _
    · rw [h.stops_eq]
      exact perm_sortStops _
    · rw [h.stops_eq]
      exact pairwise_sortStops hnumbered
    · rw [h.stops_eq]
      exact filter_sortStops hnumbered x

end Gradient

namespace Exact

/-- A gradient that is moved to the right by one, and leaves its units and its stops to another one. -/
def leaning : Gradient Rat := ⟨"a", .linear, ⟨[("x1", "1"), ("x2", "3")]⟩, none, some (.shift 1 0), some "b", []⟩

/-- A gradient that refers back to it. Two of its stops have the same offset. -/
def referring : Gradient Rat where
  id := "b"
  kind := .radial
  attributes := ⟨[]⟩
  units := some .userSpace
  transform := none
  href := some "a"
  stops := [⟨1, .gray 0, 1⟩, ⟨1 / 2, .gray 1, 1⟩, ⟨1 / 2, .gray 0, 1⟩]

def mirrored : Table (Gradient Rat) := ⟨[("a", leaning), ("b", referring)]⟩

/-- A box of two by four points on a page. -/
def target : GradientTarget Rat := ⟨⟨0, 1, 2, 4⟩, 100, ⟨96, 16⟩⟩

end Exact

namespace Gradient

/-- The first of two gradients that refer to each other is painted with the stops and in the units of the second. -/
theorem paintsAs_mirrored :
    ∃ resolved, resolve? Exact.mirrored "a" Exact.target = some resolved ∧
      resolved.geometry = .linear ⟨1, 1⟩ ⟨2, 1⟩ ∧
      resolved.stops = [⟨1 / 2, .gray 1, 1⟩, ⟨1 / 2, .gray 0, 1⟩, ⟨1, .gray 0, 1⟩] ∧
      ∃ gradient source units, PaintsAs Exact.mirrored "a" Exact.target resolved gradient source units ∧
        resolved.stops.Pairwise (fun first second => first.offset ≤ second.offset) ∧
        ∀ x, resolved.stops.filter (·.offset == x) = source.stops.filter (·.offset == x) := by
  let resolved : ResolvedGradient Rat :=
    ⟨.linear ⟨1, 1⟩ ⟨2, 1⟩, Exact.target.placement, [⟨1 / 2, .gray 1, 1⟩, ⟨1 / 2, .gray 0, 1⟩, ⟨1, .gray 0, 1⟩]⟩
  have hresolved : resolve? Exact.mirrored "a" Exact.target = some resolved := by
    refine resolve?_eq_some_iff.2 ⟨Exact.leaning, Exact.referring, .userSpace, ?_⟩
    constructor
    case get?_eq => rfl
    case givesStops => exact .later rfl (.here (List.cons_ne_nil _ _))
    case givesUnits => exact .later rfl (.here rfl)
    case stops_eq => cbv
    case geometry_eq => decide +kernel
    case placement_eq => rfl
  obtain ⟨gradient, source, units, hpaints, -, -, hstops⟩ :=
    (paintsAs_of_reached Exact.mirrored "a" Exact.target).2.2 resolved hresolved
  obtain ⟨hsorted, hkept⟩ := hstops fun stop _ => (Scalar.Exact.beq_iff_eq _ _).2 rfl
  exact ⟨resolved, hresolved, rfl, rfl, gradient, source, units, hpaints, hsorted, hkept⟩

end Gradient

end SvgPage
