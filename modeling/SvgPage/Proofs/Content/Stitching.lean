import SvgPage.Drawing.Paint
import SvgPage.Proofs.Content.Shading
import SvgPage.Proofs.Numeric.Measured

namespace SvgPage

open Scalar.Measured

variable {α : Type}

/-- A function of type 2: from one list of components to another one, along a power of a number of its domain. -/
structure Exponential (α : Type) where
  domain : Nat × Nat
  first : List α
  last : List α
  exponent : Nat

/-- A function as a page describes it: one of type 2, or several of them that a function of type 3 applies on parts
    of its domain. `encode` has the numbers to which the ends of the parts are taken. -/
inductive PageFunction (α : Type) where
  | exponential (function : Exponential α)
  | stitching (domain : Nat × Nat) (functions : List (Exponential α)) (bounds : List α) (encode : List (Nat × Nat))

/-- The ends of an interval as operands. -/
def writeEnds (ends : Nat × Nat) : String := toString ends.1 ++ " " ++ toString ends.2

namespace Exponential

def write (function : Exponential Float) : String :=
  "<< /FunctionType 2 /Domain [" ++ writeEnds function.domain ++ "] /C0 [" ++ writeNumbers function.first ++
    "] /C1 [" ++ writeNumbers function.last ++ ("] /N " ++ toString function.exponent ++ " >>")

/-- The function that a shading has between two colors. -/
def between (colors : DeviceColor α × DeviceColor α) : Exponential α :=
  ⟨(0, 1), colors.1.components, colors.2.components, 1⟩

/-- Both ends have the given number of components. -/
def WellFormed (function : Exponential α) (size : Nat) : Prop :=
  function.first.length = size ∧ function.last.length = size

end Exponential

def PageFunction.write : PageFunction Float → String
  | exponential function => function.write
  | stitching domain functions bounds encode =>
    "<< /FunctionType 3 /Domain [" ++ writeEnds domain ++ "] /Functions [" ++
      " ".intercalate (functions.map Exponential.write) ++ "] /Bounds [" ++ writeNumbers bounds ++ "] /Encode [" ++
      " ".intercalate (encode.map writeEnds) ++ "] >>"

def PageFunction.domain : PageFunction α → Nat × Nat
  | exponential function => function.domain
  | stitching domain .. => domain

/-- The function as it is described on a page. -/
def ShadingFunction.page : ShadingFunction α → PageFunction α
  | interpolation first last => .exponential (.between (first, last))
  | stitching parts bounds => .stitching (0, 1) (parts.map .between) bounds (parts.map fun _ => (0, 1))

theorem writeEnds_zero_one : writeEnds (0, 1) = "0 1" := by decide

theorem Exponential.write_between (first last : DeviceColor Float) :
    (between (first, last)).write = ShadingFunction.writePart first last := by
  have hopening : "<< /FunctionType 2 /Domain [" ++ writeEnds (0, 1) ++ "] /C0 [" =
    "<< /FunctionType 2 /Domain [0 1] /C0 [" := by decide +kernel
  have hclosing : "] /N " ++ toString 1 ++ " >>" = "] /N 1 >>" := by decide +kernel
  unfold write between ShadingFunction.writePart DeviceColor.write
  rw [hopening, hclosing]

/-- A page holds the text of the function that is described. -/
theorem ShadingFunction.write_page (function : ShadingFunction Float) : function.page.write = function.write := by
  cases function with
  | interpolation first last => exact Exponential.write_between first last
  | stitching parts bounds =>
    have hopening : "<< /FunctionType 3 /Domain [" ++ writeEnds (0, 1) ++ "] /Functions [" =
      "<< /FunctionType 3 /Domain [0 1] /Functions [" := by decide +kernel
    have hparts : Exponential.write ∘ Exponential.between =
        fun colors : DeviceColor Float × DeviceColor Float => writePart colors.1 colors.2 :=
      funext fun colors => Exponential.write_between colors.1 colors.2
    have hends : (writeEnds ∘ fun _ : DeviceColor Float × DeviceColor Float => (0, 1)) = fun _ => "0 1" :=
      funext fun _ => writeEnds_zero_one
    unfold page PageFunction.write ShadingFunction.write
    dsimp only
    rw [List.map_map, List.map_map, hopening, hparts, hends]

section Reading

variable [Scalar α]

/-- The power of a number with a natural exponent. -/
def Scalar.power (x : α) : Nat → α
  | 0 => 1
  | exponent + 1 => x * power x exponent

/-- The number that lies between `ends` as `x` lies between `low` and `high`. -/
def PageFunction.rescale (low high x : α) (ends : Nat × Nat) : α :=
  if low < high then
    Scalar.ofNat ends.1 + (x - low) * (Scalar.ofNat ends.2 - Scalar.ofNat ends.1) / (high - low)
  else Scalar.ofNat ends.1

/-- The number of a domain that is nearest to `x`. -/
def PageFunction.confine (domain : Nat × Nat) (x : α) : α :=
  Scalar.clamp x (Scalar.ofNat domain.1) (Scalar.ofNat domain.2)

/-- The components at a number, moved into the domain. -/
def Exponential.value (function : Exponential α) (x : α) : List α :=
  List.zipWith
    (fun first last => first + Scalar.power (PageFunction.confine function.domain x) function.exponent * (last - first))
    function.first function.last

namespace PageFunction

/-- The components at a number of the interval from `low` to `high`. Each bound belongs to the part above it, and
    there are no components where functions, bounds and ends do not correspond. -/
def stitched (high x low : α) : List (Exponential α) → List α → List (Nat × Nat) → Option (List α)
  | [function], [], [ends] => some (function.value (rescale low high x ends))
  | function :: functions, bound :: bounds, ends :: encode =>
    if x < bound then some (function.value (rescale low bound x ends))
    else stitched high x bound functions bounds encode
  | _, _, _ => none

/-- The components at a number by the rules for functions of types 2 and 3. -/
def value (x : α) : PageFunction α → Option (List α)
  | exponential function => some (function.value x)
  | stitching domain functions bounds encode =>
    stitched (Scalar.ofNat domain.2) (confine domain x) (Scalar.ofNat domain.1) functions bounds encode

/-- All functions have the given number of components. There is a bound between two functions, no bound is below the
    one before it or outside the domain, and each function has a pair of ends. -/
def WellFormed [Scalar.Measured α] (size : Nat) : PageFunction α → Prop
  | exponential function => function.WellFormed size
  | stitching domain functions bounds encode =>
    (∀ function ∈ functions, function.WellFormed size) ∧
      functions.length = bounds.length + 1 ∧ encode.length = functions.length ∧
      bounds.Pairwise (fun bound next => toReal bound ≤ toReal next) ∧
      ∀ bound ∈ bounds, (domain.1 : ℝ) ≤ toReal bound ∧ toReal bound ≤ (domain.2 : ℝ)

end PageFunction

end Reading

namespace GradientStop

variable [Scalar α]

/-- The components between those of two stops, in proportion to the distances of `t` from their offsets. -/
def mix (before after : GradientStop α) (t : α) : List α :=
  List.zipWith (fun first last => first + (t - before.offset) / (after.offset - before.offset) * (last - first))
    before.color.components after.color.components

def below (stops : List (GradientStop α)) (t : α) : List (GradientStop α) := stops.filter fun stop => stop.offset < t

def above (stops : List (GradientStop α)) (t : α) : List (GradientStop α) := stops.filter fun stop => t < stop.offset

/-- The components at `t`: those between the last stop below and the first stop above, or those of the only
    neighbour. -/
def colorAt (stops : List (GradientStop α)) (t : α) : List α :=
  match (below stops t).getLast?, (above stops t).head? with
  | some before, some after => before.mix after t
  | some only, none => only.color.components
  | none, some only => only.color.components
  | none, none => []

/-- The stop with its color in red, green and blue. -/
def inRgb (stop : GradientStop α) : GradientStop α := { stop with color := stop.color.toRgb }

/-- The stops in one color space: their own, or that of red, green and blue where they do not share one. -/
def common (stops : List (GradientStop α)) : List (GradientStop α) :=
  if ∀ stop ∈ stops, ∀ other ∈ stops, stop.color.space = other.color.space then stops
  else stops.map inRgb

/-- The offsets do not leave the interval from zero to one, and do not go back. -/
structure Ordered [Scalar.Measured α] (stops : List (GradientStop α)) : Prop where
  sorted : stops.Pairwise fun stop next => toReal stop.offset ≤ toReal next.offset
  bounded : ∀ stop ∈ stops, 0 ≤ toReal stop.offset ∧ toReal stop.offset ≤ 1

end GradientStop

/-- The function of a shading is one that a page can hold, and gives the colors along stops in the space of the
    shading. Nothing is asked at the stops themselves, where colors can change at once. -/
structure Shading.Interpolates [Scalar α] [Scalar.Measured α] (shading : Shading α) (stops : List (GradientStop α)) :
    Prop where
  domain : shading.function.page.domain = (0, 1)
  wellFormed : shading.function.page.WellFormed shading.space.size
  space : ∀ stop ∈ GradientStop.common stops, stop.color.space = shading.space
  value : ∀ t : α, 0 ≤ toReal t → toReal t ≤ 1 → (∀ stop ∈ stops, stop.offset ≠ t) →
    shading.function.page.value t = some (GradientStop.colorAt (GradientStop.common stops) t)

section

variable [Scalar α] [Scalar.Measured α]

theorem Scalar.power_one (x : α) : Scalar.power x 1 = x := by
  apply toReal_injective
  rw [Scalar.power, Scalar.power, toReal_mul, toReal_one, mul_one]

namespace PageFunction

/-- The numbers from zero to one are the domain of a function. -/
theorem confine_eq {x : α} (hlow : 0 ≤ toReal x) (hhigh : toReal x ≤ 1) : confine (0, 1) x = x := by
  apply toReal_injective
  rw [confine, Scalar.clamp, Scalar.ofNat, Scalar.ofNat, toReal_min, toReal_max, toReal_ofNat, toReal_ofNat,
    Nat.cast_zero, Nat.cast_one, max_eq_left hlow, min_eq_left hhigh]

theorem toReal_rescale {low high x : α} (h : toReal low < toReal high) :
    toReal (rescale low high x (0, 1)) = (toReal x - toReal low) / (toReal high - toReal low) := by
  have hwidth : toReal (high - low) ≠ 0 := by
    rw [toReal_sub]
    exact sub_ne_zero.2 h.ne'
  rw [rescale, if_pos ((lt_iff _ _).2 h), toReal_add, toReal_div _ _ hwidth, toReal_mul, toReal_sub, toReal_sub,
    toReal_sub, Scalar.ofNat, Scalar.ofNat, toReal_ofNat, toReal_ofNat, Nat.cast_zero, Nat.cast_one, zero_add, sub_zero,
    mul_one]

end PageFunction

namespace Exponential

/-- Where a part of the domain lies between two stops, its function mixes their colors. -/
theorem value_rescale {before after : GradientStop α} {high t : α} (hhigh : toReal high = toReal after.offset)
    (habove : toReal before.offset < toReal t) (hbelow : toReal t ≤ toReal high) :
    (between (before.color, after.color)).value (PageFunction.rescale before.offset high t (0, 1)) =
      before.mix after t := by
  have hwidth : toReal before.offset < toReal high := habove.trans_le hbelow
  have hscaled := PageFunction.toReal_rescale (x := t) hwidth
  have hshare : PageFunction.rescale before.offset high t (0, 1) =
      (t - before.offset) / (after.offset - before.offset) := by
    have hne : toReal (after.offset - before.offset) ≠ 0 := by
      rw [toReal_sub, ← hhigh]
      exact sub_ne_zero.2 hwidth.ne'
    apply toReal_injective
    rw [hscaled, toReal_div _ _ hne, toReal_sub, toReal_sub, hhigh]
  have hconfined := PageFunction.confine_eq (x := PageFunction.rescale before.offset high t (0, 1))
    (by rw [hscaled]; exact div_nonneg (sub_nonneg.2 habove.le) (sub_nonneg.2 hwidth.le))
    (by rw [hscaled]; exact div_le_one_of_le₀ (sub_le_sub_right hbelow _) (sub_nonneg.2 hwidth.le))
  rw [hshare] at hconfined ⊢
  simp only [value, between, Scalar.power_one, hconfined, GradientStop.mix]

/-- Between two like colors there is no other. -/
theorem value_between_self (color : DeviceColor α) (x : α) : (between (color, color)).value x = color.components := by
  have hsame (component share : α) : component + share * (component - component) = component := by
    apply toReal_injective
    rw [toReal_add, toReal_mul, toReal_sub, sub_self, mul_zero, add_zero]
  simp only [value, between, List.zipWith_self, hsame, List.map_id']

end Exponential

namespace GradientStop

variable {first second : GradientStop α} {rest stops : List (GradientStop α)} {low t : α}

/-- The components at `t` by the functions between neighbouring stops. -/
def stitched (t low : α) (stops : List (GradientStop α)) : Option (List α) :=
  PageFunction.stitched (Scalar.ofNat 1) t low
    ((stops.zip (stops.drop 1)).map fun (first, last) => .between (first.color, last.color))
    (((stops.drop 1).dropLast).map offset) ((stops.zip (stops.drop 1)).map fun _ => (0, 1))

/-- Below the second stop the first function is applied; if there is no other one, up to the end. -/
theorem stitched_of_lt (hend : rest = [] → toReal second.offset = 1) (habove : toReal first.offset < toReal t)
    (hbelow : toReal t < toReal second.offset) :
    stitched t first.offset (first :: second :: rest) = some (first.mix second t) := by
  cases rest with
  | nil =>
    have hhigh : toReal (Scalar.ofNat 1 : α) = toReal second.offset := by
      rw [hend rfl]
      exact toReal_one
    exact congrArg some (Exponential.value_rescale hhigh habove (hhigh ▸ hbelow.le))
  | cons third rest =>
    refine (if_pos ((lt_iff _ _).2 hbelow)).trans ?_
    exact congrArg some (Exponential.value_rescale rfl habove hbelow.le)

/-- Above the second stop the others are. -/
theorem stitched_of_gt (hrest : rest ≠ []) (habove : toReal second.offset < toReal t) :
    stitched t low (first :: second :: rest) = stitched t second.offset (second :: rest) := by
  obtain ⟨third, rest, rfl⟩ := List.exists_cons_of_ne_nil hrest
  exact if_neg fun hlt => ((lt_iff _ _).1 hlt).asymm habove

/-- Between two stops of one color there is no other color. -/
theorem stitched_of_eq (hcolor : first.color = second.color) (hbelow : rest = [] ∨ toReal t < toReal second.offset) :
    stitched t low (first :: second :: rest) = some second.color.components := by
  have hvalue (x : α) : Exponential.value (.between (first.color, second.color)) x = second.color.components := by
    rw [hcolor, Exponential.value_between_self]
  cases rest with
  | nil => exact congrArg some (hvalue _)
  | cons third rest =>
    have hlt : t < second.offset := (lt_iff _ _).2 (hbelow.resolve_left (List.cons_ne_nil _ _))
    exact (if_pos hlt).trans (congrArg some (hvalue _))

theorem below_cons (h : toReal first.offset < toReal t) : below (first :: rest) t = first :: below rest t := by
  rw [below, List.filter_cons, if_pos (decide_eq_true ((lt_iff _ _).2 h)), below]

theorem below_eq_nil (h : ∀ stop ∈ stops, toReal t < toReal stop.offset) : below stops t = [] := by
  refine List.filter_eq_nil_iff.2 fun stop hmem hlt => ?_
  exact (h stop hmem).asymm ((lt_iff _ _).1 (of_decide_eq_true hlt))

theorem above_cons_of_lt (h : toReal t < toReal first.offset) : above (first :: rest) t = first :: above rest t := by
  rw [above, List.filter_cons, if_pos (decide_eq_true ((lt_iff _ _).2 h)), above]

theorem above_cons_of_gt (h : toReal first.offset < toReal t) : above (first :: rest) t = above rest t := by
  have hnot : ¬t < first.offset := fun hlt => ((lt_iff _ _).1 hlt).asymm h
  rw [above, List.filter_cons, if_neg (by rwa [decide_eq_true_iff]), above]

/-- A number below the first stop is below all of them. -/
theorem Ordered.below_eq_nil (h : Ordered (first :: rest)) (hbelow : toReal t < toReal first.offset) :
    below (first :: rest) t = [] := by
  refine GradientStop.below_eq_nil fun stop hmem => ?_
  obtain rfl | hmem := List.mem_cons.1 hmem
  · exact hbelow
  · exact hbelow.trans_le (List.rel_of_pairwise_cons h.sorted hmem)

theorem colorAt_of_lt (h : Ordered (first :: rest)) (hbelow : toReal t < toReal first.offset) :
    colorAt (first :: rest) t = first.color.components := by
  rw [colorAt, h.below_eq_nil hbelow, above_cons_of_lt hbelow]
  rfl

theorem colorAt_singleton (habove : toReal first.offset < toReal t) : colorAt [first] t = first.color.components := by
  rw [colorAt, below_cons habove, above_cons_of_gt habove]
  rfl

theorem colorAt_of_between (h : Ordered (second :: rest)) (habove : toReal first.offset < toReal t)
    (hbelow : toReal t < toReal second.offset) : colorAt (first :: second :: rest) t = first.mix second t := by
  rw [colorAt, below_cons habove, h.below_eq_nil hbelow, above_cons_of_gt habove, above_cons_of_lt hbelow]
  rfl

omit [Scalar.Measured α] in
theorem map_offset_common (stops : List (GradientStop α)) : (common stops).map offset = stops.map offset := by
  rw [common]
  split
  next => rfl
  next => rw [List.map_map]; rfl

omit [Scalar.Measured α] in
theorem exists_offset_of_mem_common : ∀ stop ∈ common stops, ∃ own ∈ stops, own.offset = stop.offset := by
  intro stop hmem
  have hoffset : stop.offset ∈ stops.map offset := map_offset_common stops ▸ List.mem_map_of_mem hmem
  exact List.mem_map.1 hoffset

omit [Scalar.Measured α] in
/-- Afterwards the stops share a color space. -/
theorem space_common : ∀ stop ∈ common stops, ∀ other ∈ common stops, stop.color.space = other.color.space := by
  rw [common]
  split
  next hsame => exact hsame
  next =>
    have hrgb : ∀ stop ∈ stops.map inRgb, stop.color.space = .rgb :=
      List.forall_mem_map.2 fun stop _ => stop.color.space_toRgb
    intro stop hstop other hother
    rw [hrgb stop hstop, hrgb other hother]

theorem Ordered.common (h : Ordered stops) : Ordered (common stops) := by
  constructor
  · have hoffsets : (stops.map offset).Pairwise (toReal · ≤ toReal ·) := List.pairwise_map.2 h.sorted
    have hcommon : ((GradientStop.common stops).map offset).Pairwise (toReal · ≤ toReal ·) :=
      map_offset_common stops ▸ hoffsets
    rwa [List.pairwise_map] at hcommon
  · intro stop hmem
    obtain ⟨own, hown, hoffset⟩ := exists_offset_of_mem_common stop hmem
    rw [← hoffset]
    exact h.bounded own hown

/-- Stops before the last one that `t` has reached do not count. -/
theorem colorAt_of_gt (hle : toReal first.offset ≤ toReal second.offset) (habove : toReal second.offset < toReal t) :
    colorAt (first :: second :: rest) t = colorAt (second :: rest) t := by
  rw [colorAt, below_cons (hle.trans_lt habove), below_cons habove, above_cons_of_gt (hle.trans_lt habove),
    List.getLast?_cons_cons, ← below_cons habove, ← colorAt]

theorem Ordered.tail (h : Ordered (first :: rest)) : Ordered rest :=
  ⟨h.sorted.of_cons, fun stop hmem => h.bounded stop (List.mem_cons_of_mem _ hmem)⟩

/-- The last stop again at the end of the gradient, unless it is there. -/
def closing (last : GradientStop α) : List (GradientStop α) :=
  if last.offset < 1 then [{ last with offset := 1 }] else []

theorem closing_of_lt {last : GradientStop α} (h : toReal last.offset < 1) :
    closing last = [{ last with offset := 1 }] := by
  refine if_pos ((lt_iff _ _).2 ?_)
  rwa [toReal_one]

theorem Ordered.offset_of_closing_eq_nil {last : GradientStop α} (h : Ordered stops) (hmem : last ∈ stops)
    (hclosing : closing last = []) : toReal last.offset = 1 := by
  by_contra hne
  rw [closing_of_lt (lt_of_le_of_ne (h.bounded last hmem).2 hne)] at hclosing
  cases hclosing

/-- Above the first stop, the functions between all stops give what lies between its neighbours. -/
theorem stitched_closing {last : GradientStop α} (h : Ordered (first :: rest))
    (hlast : (first :: rest).getLast? = some last) (habove : toReal first.offset < toReal t) (hone : toReal t ≤ 1)
    (hnot : ∀ stop ∈ rest, stop.offset ≠ t) :
    stitched t first.offset (first :: (rest ++ closing last)) = some (colorAt (first :: rest) t) := by
  induction rest generalizing first with
  | nil =>
    obtain rfl : first = last := Option.some.inj hlast
    rw [List.nil_append, closing_of_lt (habove.trans_le hone), colorAt_singleton habove]
    exact stitched_of_eq rfl (.inl rfl)
  | cons second rest ih =>
    rw [List.getLast?_cons_cons] at hlast
    have hmem : last ∈ second :: rest := List.mem_of_getLast? hlast
    have hle : toReal first.offset ≤ toReal second.offset := List.rel_of_pairwise_cons h.sorted List.mem_cons_self
    have hne : toReal second.offset ≠ toReal t := fun heq => hnot second List.mem_cons_self (toReal_injective heq)
    obtain hbelow | hreached := lt_or_gt_of_ne hne.symm
    · have hend (hrest : rest ++ closing last = []) : toReal second.offset = 1 := by
        obtain ⟨rfl, hclosing⟩ := List.append_eq_nil_iff.1 hrest
        obtain rfl : second = last := Option.some.inj hlast
        exact h.tail.offset_of_closing_eq_nil hmem hclosing
      rw [List.cons_append, stitched_of_lt hend habove hbelow, colorAt_of_between h.tail habove hbelow]
    · have hrest : rest ++ closing last ≠ [] := by
        intro hrest
        obtain ⟨rfl, hclosing⟩ := List.append_eq_nil_iff.1 hrest
        obtain rfl : second = last := Option.some.inj hlast
        exact (hreached.trans_le hone).ne (h.tail.offset_of_closing_eq_nil hmem hclosing)
      rw [List.cons_append, stitched_of_gt hrest hreached, colorAt_of_gt hle hreached]
      exact ih h.tail hlast hreached fun stop hmem => hnot stop (List.mem_cons_of_mem _ hmem)

/-- Where the stops are repeated at both ends, the functions between them give the color at every number. -/
theorem stitched_padStops {last : GradientStop α} (h : Ordered (first :: rest))
    (hlast : (first :: rest).getLast? = some last) (hzero : 0 ≤ toReal t) (hone : toReal t ≤ 1)
    (hnot : ∀ stop ∈ first :: rest, stop.offset ≠ t) :
    stitched t 0 (Shading.padStops first last (first :: rest)) = some (colorAt (first :: rest) t) := by
  have hne : toReal first.offset ≠ toReal t := fun heq => hnot first List.mem_cons_self (toReal_injective heq)
  have hrest := fun stop hmem => hnot stop (List.mem_cons_of_mem first hmem)
  rw [Shading.padStops, ← closing]
  split
  next hopening =>
    rw [List.cons_append, List.nil_append]
    obtain hbelow | habove := lt_or_gt_of_ne hne.symm
    · rw [colorAt_of_lt h hbelow]
      exact stitched_of_eq rfl (.inr hbelow)
    · have hmore : rest ++ closing last ≠ [] := by
        intro hmore
        obtain ⟨rfl, hclosing⟩ := List.append_eq_nil_iff.1 hmore
        obtain rfl : first = last := Option.some.inj hlast
        exact (habove.trans_le hone).ne (h.offset_of_closing_eq_nil List.mem_cons_self hclosing)
      exact (stitched_of_gt hmore habove).trans (stitched_closing h hlast habove hone hrest)
  next hstart =>
    have hoffset : first.offset = 0 := by
      rw [lt_iff, toReal_zero, not_lt] at hstart
      apply toReal_injective
      rw [toReal_zero]
      exact le_antisymm hstart (h.bounded first List.mem_cons_self).1
    have habove : toReal first.offset < toReal t := by
      refine lt_of_le_of_ne ?_ hne
      rw [hoffset, toReal_zero]
      exact hzero
    rw [← hoffset]
    exact stitched_closing h hlast habove hone hrest

end GradientStop

namespace Shading

open GradientStop (Ordered common inRgb closing stitched)

variable {first last : GradientStop α} {rest stops : List (GradientStop α)} {t : α}

omit [Scalar.Measured α] in
/-- The stops that are repeated have colors of other stops. -/
theorem exists_color_of_mem_padStops (hfirst : first ∈ stops) (hlast : last ∈ stops) :
    ∀ stop ∈ padStops first last stops, ∃ own ∈ stops, own.color = stop.color := by
  refine List.forall_mem_append.2 ⟨List.forall_mem_append.2 ⟨?_, fun stop hmem => ⟨stop, hmem, rfl⟩⟩, ?_⟩
  · split
    · exact List.forall_mem_singleton.2 ⟨first, hfirst, rfl⟩
    · exact List.forall_mem_nil _
  · split
    · exact List.forall_mem_singleton.2 ⟨last, hlast, rfl⟩
    · exact List.forall_mem_nil _

omit [Scalar.Measured α] in
/-- So they stay in the color space that the stops share. -/
theorem space_padStops (hfirst : first ∈ stops) (hlast : last ∈ stops)
    (h : ∀ stop ∈ stops, ∀ other ∈ stops, stop.color.space = other.color.space) :
    ∀ stop ∈ padStops first last stops, ∀ other ∈ padStops first last stops, stop.color.space = other.color.space := by
  have hcolors := exists_color_of_mem_padStops hfirst hlast
  intro stop hstop other hother
  obtain ⟨own, hown, hcolor⟩ := hcolors stop hstop
  obtain ⟨own', hown', hcolor'⟩ := hcolors other hother
  rw [← hcolor, ← hcolor']
  exact h own hown own' hown'

theorem ordered_padStops (h : Ordered stops) (first last : GradientStop α) : Ordered (padStops first last stops) := by
  have hopening : ∀ stop ∈ if 0 < first.offset then [{ first with offset := 0 }] else [], toReal stop.offset = 0 := by
    split
    · exact List.forall_mem_singleton.2 toReal_zero
    · exact List.forall_mem_nil _
  have hclosing : ∀ stop ∈ if last.offset < 1 then [{ last with offset := 1 }] else [], toReal stop.offset = 1 := by
    split
    · exact List.forall_mem_singleton.2 toReal_one
    · exact List.forall_mem_nil _
  have hbounded : ∀ stop ∈ padStops first last stops, 0 ≤ toReal stop.offset ∧ toReal stop.offset ≤ 1 := by
    refine List.forall_mem_append.2 ⟨List.forall_mem_append.2 ⟨fun stop hmem => ?_, h.bounded⟩, fun stop hmem => ?_⟩
    · rw [hopening stop hmem]
      exact ⟨le_rfl, zero_le_one⟩
    · rw [hclosing stop hmem]
      exact ⟨zero_le_one, le_rfl⟩
  have hsingle {condition : Prop} [Decidable condition] (stop : GradientStop α) :
      (if condition then [stop] else []).Pairwise fun stop next => toReal stop.offset ≤ toReal next.offset := by
    split
    · exact List.pairwise_singleton _ _
    · exact .nil
  refine ⟨List.pairwise_append.2 ⟨List.pairwise_append.2 ⟨hsingle _, h.sorted, ?_⟩, hsingle _, ?_⟩, hbounded⟩
  · intro stop hstop next hnext
    rw [hopening stop hstop]
    exact (h.bounded next hnext).1
  · intro stop hstop next hnext
    rw [hclosing next hnext]
    exact (hbounded stop (List.mem_append_left _ hstop)).2

/-- Stops that cover the whole gradient are two at least. -/
theorem exists_padStops (h : Ordered (first :: rest)) (hlast : (first :: rest).getLast? = some last) :
    ∃ start next more, padStops first last (first :: rest) = start :: next :: more := by
  rw [padStops, ← closing]
  split
  next => exact ⟨_, first, rest ++ closing last, rfl⟩
  next hstart =>
    cases hmore : rest ++ closing last with
    | nil =>
      obtain ⟨rfl, hclosing⟩ := List.append_eq_nil_iff.1 hmore
      obtain rfl : first = last := Option.some.inj hlast
      have hone := h.offset_of_closing_eq_nil List.mem_cons_self hclosing
      rw [Scalar.Measured.lt_iff, toReal_zero, hone] at hstart
      exact absurd one_pos hstart
    | cons next more => exact ⟨first, next, more, congrArg (first :: ·) hmore⟩

/-- The colors along stops are those of the functions between neighbours, also where there is only one function. -/
theorem value_functionOf {start next : GradientStop α} {more : List (GradientStop α)} (hzero : 0 ≤ toReal t)
    (hone : toReal t ≤ 1) :
    (functionOf (start :: next :: more)).page.value t = stitched t 0 (start :: next :: more) := by
  cases more with
  | nil =>
    have hscaled : PageFunction.rescale 0 (Scalar.ofNat 1) t (0, 1) = t := by
      have hhigh : toReal (Scalar.ofNat 1 : α) = 1 := toReal_one
      apply toReal_injective
      rw [PageFunction.toReal_rescale (by rw [toReal_zero, hhigh]; exact one_pos), hhigh, toReal_zero, sub_zero,
        sub_zero, div_one]
    change _ = some (Exponential.value (.between (start.color, next.color)) _)
    rw [hscaled]
    rfl
  | cons third more =>
    change PageFunction.stitched _ (PageFunction.confine (0, 1) t) _ _ _ _ = _
    rw [PageFunction.confine_eq hzero hone, List.map_map, List.map_map]
    rfl

theorem wellFormed_functionOf {space : ColorSpace} (h : Ordered stops)
    (hspace : ∀ stop ∈ stops, stop.color.space = space) (hlength : 2 ≤ stops.length) :
    (functionOf stops).page.WellFormed space.size := by
  have hsize {stop : GradientStop α} (hmem : stop ∈ stops) : stop.color.components.length = space.size := by
    rw [DeviceColor.length_components, hspace stop hmem]
  unfold functionOf
  split
  next start next => exact ⟨hsize (by simp), hsize (by simp)⟩
  next =>
    refine ⟨fun function hmem => ?_, ?_, ?_, ?_, ?_⟩
    · obtain ⟨colors, hcolors, rfl⟩ := List.mem_map.1 hmem
      obtain ⟨⟨start, next⟩, hpair, rfl⟩ := List.mem_map.1 hcolors
      obtain ⟨hstart, hnext⟩ := List.of_mem_zip hpair
      exact ⟨hsize hstart, hsize (List.mem_of_mem_drop hnext)⟩
    · simp only [List.length_map, List.length_zip, List.length_drop, List.length_dropLast]
      omega
    · simp only [List.length_map]
    · have hinner := h.sorted.sublist ((List.dropLast_sublist _).trans (List.drop_sublist 1 stops))
      exact List.pairwise_map.2 hinner
    · intro bound hmem
      obtain ⟨stop, hstop, rfl⟩ := List.mem_map.1 hmem
      rw [Nat.cast_zero, Nat.cast_one]
      exact h.bounded stop (List.mem_of_mem_drop (List.mem_of_mem_dropLast hstop))

omit [Scalar.Measured α] in
theorem mem_padStops {stop : GradientStop α} (h : stop ∈ stops) : stop ∈ padStops first last stops :=
  List.mem_append_left _ (List.mem_append_right _ h)

omit [Scalar.Measured α] in
theorem map_inRgb_padStops (first last : GradientStop α) (stops : List (GradientStop α)) :
    (padStops first last stops).map inRgb = padStops first.inRgb last.inRgb (stops.map inRgb) := by
  simp only [padStops, List.map_append, apply_ite (List.map inRgb), List.map_cons, List.map_nil]
  rfl

omit [Scalar.Measured α] in
/-- The stops of a gradient are taken to one color space before they are repeated or after that alike. -/
theorem exists_normalizeStops (h : stops ≠ []) : ∃ first rest last, common stops = first :: rest ∧
    (first :: rest).getLast? = some last ∧ normalizeStops stops = padStops first last (first :: rest) := by
  obtain ⟨first, rest, rfl⟩ := List.exists_cons_of_ne_nil h
  have hlast : (first :: rest).getLast? = some ((first :: rest).getLast h) := List.getLast?_eq_some_getLast h
  have hcolors := exists_color_of_mem_padStops List.mem_cons_self (List.getLast_mem h)
  have hnormalize : normalizeStops (first :: rest) =
      unifyColors first.color.space (padStops first ((first :: rest).getLast h) (first :: rest)) := by
    rw [normalizeStops, List.head?_cons, hlast]
  by_cases hsame : ∀ stop ∈ first :: rest, ∀ other ∈ first :: rest, stop.color.space = other.color.space
  · refine ⟨first, rest, _, if_pos hsame, hlast, hnormalize.trans (if_pos ?_)⟩
    refine List.all_eq_true.2 fun stop hmem => ?_
    obtain ⟨own, hown, hcolor⟩ := hcolors stop hmem
    rw [← hcolor, hsame own hown first List.mem_cons_self, beq_self_eq_true]
  · have hmapped : ((first :: rest).map inRgb).getLast? = some ((first :: rest).getLast h).inRgb := by
      rw [List.getLast?_map, hlast]
      rfl
    refine ⟨first.inRgb, rest.map inRgb, _, if_neg hsame, hmapped, ?_⟩
    rw [← List.map_cons, ← map_inRgb_padStops, hnormalize]
    refine if_neg fun hall => hsame fun stop hstop other hother => ?_
    have hfirst (stop : GradientStop α) (hmem : stop ∈ first :: rest) : stop.color.space = first.color.space :=
      beq_iff_eq.1 (List.all_eq_true.1 hall stop (mem_padStops hmem))
    rw [hfirst stop hstop, hfirst other hother]

/-- The shading that is registered for a gradient leads through the colors of its stops. -/
theorem interpolates_of_ordered {gradient : ResolvedGradient α} (hstops : gradient.stops ≠ [])
    (h : Ordered gradient.stops) (ledger : Ledger α) :
    ∃ shading, (shadingOperators gradient ledger).2 =
        { ledger with resources := ledger.resources.push (.shading shading) } ∧
      shading.geometry = gradient.geometry ∧ shading.Interpolates gradient.stops := by
  obtain ⟨first, rest, last, hcommon, hlast, hnormalize⟩ := exists_normalizeStops hstops
  have hordered : Ordered (first :: rest) := hcommon ▸ h.common
  obtain ⟨start, next, more, hpadded⟩ := exists_padStops hordered hlast
  have hpaddedOrder : Ordered (start :: next :: more) := hpadded ▸ ordered_padStops hordered first last
  have hcommonSpace : ∀ stop ∈ first :: rest, ∀ other ∈ first :: rest, stop.color.space = other.color.space :=
    hcommon ▸ GradientStop.space_common
  have hspace := space_padStops List.mem_cons_self (List.mem_of_getLast? hlast) hcommonSpace
  have hown : ∀ stop ∈ first :: rest, stop.color.space = start.color.space := fun stop hmem =>
    hspace stop (mem_padStops hmem) start (hpadded ▸ List.mem_cons_self)
  have hall : ∀ stop ∈ start :: next :: more, stop.color.space = start.color.space := fun stop hmem =>
    hspace stop (hpadded ▸ hmem) start (hpadded ▸ List.mem_cons_self)
  have hshading : ofGradient? gradient =
      some ⟨gradient.geometry, start.color.space, functionOf (start :: next :: more)⟩ := by
    rw [ofGradient?, hnormalize, hpadded]
  refine ⟨⟨gradient.geometry, start.color.space, functionOf (start :: next :: more)⟩, ?_, rfl, ?_⟩
  · rw [shadingOperators, hshading]
    rfl
  · refine ⟨?_, wellFormed_functionOf hpaddedOrder hall (by simp), ?_, fun t hzero hone hnot => ?_⟩
    · cases more <;> rfl
    · rw [hcommon]
      exact hown
    · have hoffsets : ∀ stop ∈ first :: rest, stop.offset ≠ t := by
        intro stop hmem
        obtain ⟨own, hown, hoffset⟩ := GradientStop.exists_offset_of_mem_common stop (hcommon ▸ hmem)
        rw [← hoffset]
        exact hnot own hown
      rw [value_functionOf hzero hone, ← hpadded, hcommon]
      exact GradientStop.stitched_padStops hordered hlast hzero hone hoffsets

end Shading

end

namespace Exact

/-- Stops that end before the gradient does, of which two are at one place and one is gray. -/
def stripe : ResolvedGradient Rat :=
  ⟨.linear ⟨0, 0⟩ ⟨1, 0⟩, .identity,
    [⟨1 / 4, .gray 0, 1⟩, ⟨1 / 2, .rgb 1 0 0, 1⟩, ⟨1 / 2, .rgb 0 0 1, 1⟩, ⟨3 / 4, .rgb 0 1 1, 1⟩]⟩

end Exact

theorem Shading.interpolates_stripe : Exact.stripe.stops ≠ [] ∧ GradientStop.Ordered Exact.stripe.stops ∧
    ∃ shading, (shadingOperators Exact.stripe {}).2 =
        { ({} : Ledger Rat) with resources := ({} : Ledger Rat).resources.push (.shading shading) } ∧
      shading.geometry = Exact.stripe.geometry ∧ shading.Interpolates Exact.stripe.stops ∧
      shading.function.page.value (3 / 8) = some [1 / 2, 0, 0] := by
  have hstops : Exact.stripe.stops ≠ [] := List.cons_ne_nil _ _
  have hordered : GradientStop.Ordered Exact.stripe.stops := by
    have hsorted : Exact.stripe.stops.Pairwise fun stop next => stop.offset ≤ next.offset := by decide +kernel
    have hbounded : ∀ stop ∈ Exact.stripe.stops, (0 : Rat) ≤ stop.offset ∧ stop.offset ≤ 1 := by decide +kernel
    refine ⟨hsorted.imp Rat.cast_le.2, fun stop hmem => ?_⟩
    exact ⟨Rat.cast_nonneg.2 (hbounded stop hmem).1, (Rat.cast_le.2 (hbounded stop hmem).2).trans_eq Rat.cast_one⟩
  obtain ⟨shading, hledger, hgeometry, hinterpolates⟩ := interpolates_of_ordered hstops hordered {}
  refine ⟨hstops, hordered, shading, hledger, hgeometry, hinterpolates, ?_⟩
  have hzero : 0 ≤ toReal (3 / 8 : Rat) := Rat.cast_nonneg.2 (by norm_num)
  have hone : toReal (3 / 8 : Rat) ≤ 1 := by
    change ((3 / 8 : Rat) : ℝ) ≤ 1
    norm_num
  rw [hinterpolates.value (3 / 8) hzero hone (by decide +kernel)]
  decide +kernel

end SvgPage
