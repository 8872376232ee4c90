import SvgPage.Color.Read
import SvgPage.Proofs.Numeric.Bounded

namespace SvgPage

open Scalar (IsAlpha)

variable {α : Type} [Scalar α]

/-- The components of a color lie between zero and one. -/
def DeviceColor.InRange (color : DeviceColor α) : Prop := ∀ component ∈ color.components, IsAlpha component

instance (color : DeviceColor α) : Decidable color.InRange :=
  inferInstanceAs (Decidable (∀ component ∈ color.components, IsAlpha component))

namespace ColorSpace

/-- How many components the colors of a space have. -/
def size : ColorSpace → Nat
  | gray => 1
  | rgb => 3
  | cmyk => 4

end ColorSpace

omit [Scalar α] in
theorem DeviceColor.length_components (color : DeviceColor α) : color.components.length = color.space.size := by
  cases color <;> rfl

/-- The components of a color and its alpha lie between zero and one. -/
structure ResolvedColor.InRange (resolved : ResolvedColor α) : Prop where
  color : resolved.color.InRange
  alpha : IsAlpha resolved.alpha

theorem readNumber?_isFinite {text : String} {value : α} (h : readNumber? text = some value) :
    Scalar.isFinite value = true := by
  obtain ⟨numeral, -, hvalue⟩ := Option.bind_eq_some_iff.1 h
  cases numeral with
  | infinite negative => cases hvalue
  | finite decimal =>
    simp only [Numeral.value?] at hvalue
    split at hvalue
    next hfinite =>
      cases hvalue
      exact hfinite
    · cases hvalue

omit [Scalar α] in
theorem hexDigit?_lt {c : Char} {digit : Nat} (h : hexDigit? c = some digit) : digit < 16 := by
  have hplace {first last : Char} (hlast : c ≤ last) : c.toNat - first.toNat ≤ last.toNat - first.toNat :=
    Nat.sub_le_sub_right hlast _
  unfold hexDigit? at h
  split at h
  next hdigit =>
    cases h
    rw [Char.isDigit, Bool.and_eq_true, decide_eq_true_eq, decide_eq_true_eq] at hdigit
    have hlast : c ≤ '9' := hdigit.2
    exact (hplace hlast).trans_lt (by decide)
  next =>
    split at h
    next hlower =>
      cases h
      rw [Bool.and_eq_true, decide_eq_true_eq, decide_eq_true_eq] at hlower
      exact (Nat.add_le_add_right (hplace hlower.2) 10).trans_lt (by decide)
    next =>
      split at h
      next hupper =>
        cases h
        rw [Bool.and_eq_true, decide_eq_true_eq, decide_eq_true_eq] at hupper
        exact (Nat.add_le_add_right (hplace hupper.2) 10).trans_lt (by decide)
      next => cases h

omit [Scalar α] in
theorem forall_mem_hexDigits {digits : List Char} {values : List Nat} (h : digits.mapM hexDigit? = some values) :
    ∀ value ∈ values, value < 16 := by
  induction digits generalizing values with
  | nil =>
    cases h
    exact List.forall_mem_nil _
  | cons c rest ih =>
    rw [List.mapM_cons] at h
    obtain ⟨value, hvalue, hrest⟩ := Option.bind_eq_some_iff.1 h
    obtain ⟨others, hothers, hvalues⟩ := Option.bind_eq_some_iff.1 hrest
    cases hvalues
    exact List.forall_mem_cons.2 ⟨hexDigit?_lt hvalue, ih hothers⟩

omit [Scalar α] in
/-- The channels of the colors that have a name have eight bits each. -/
theorem code_lt_of_lookup {name : String} {code : Nat} (h : namedColors.lookup name = some code) :
    code < 0x1000000 := by
  have hcodes : ∀ entry ∈ namedColors, entry.2 < 0x1000000 := by
    decide +kernel
  obtain ⟨before, rest, hentries, -⟩ := List.lookup_eq_some_iff.1 h
  refine hcodes (name, code) ?_
  rw [hentries]
  exact List.mem_append_right _ List.mem_cons_self

namespace ResolvedColor

variable [Scalar.Bounded α] {resolved : ResolvedColor α}

/-- Whatever the channels are, they are moved into their range if they are numbers. -/
theorem inRange_ofRgb {red green blue alpha : α} (hred : (red == red) = true) (hgreen : (green == green) = true)
    (hblue : (blue == blue) = true) (halpha : (alpha == alpha) = true) : (ofRgb red green blue alpha).InRange where
  color := by
    simp only [DeviceColor.InRange, ofRgb, DeviceColor.components, List.forall_mem_cons]
    exact ⟨Scalar.Bounded.isAlpha_clamp hred, Scalar.Bounded.isAlpha_clamp hgreen, Scalar.Bounded.isAlpha_clamp hblue,
      List.forall_mem_nil _⟩
  alpha := Scalar.Bounded.isAlpha_clamp halpha

theorem beq_self_ofNat {n : Nat} (h : n ≤ 255) : ((Scalar.ofNat n : α) == Scalar.ofNat n) = true :=
  Scalar.Bounded.beq_self (Scalar.Bounded.isFinite_ofNat h)

/-- A fraction of 255 is a number. -/
theorem beq_self_fraction {n : Nat} (h : n ≤ 255) : ((Scalar.ofNat n / 255 : α) == Scalar.ofNat n / 255) = true :=
  Scalar.Bounded.beq_self_div (Scalar.Bounded.isFinite_ofNat h) (by decide) (by decide)

theorem inRange_ofDigits {digits : List Nat} (hdigits : ∀ digit ∈ digits, digit < 16)
    (h : ofDigits? digits = some resolved) : resolved.InRange := by
  have hopaque : ((1 : α) == 1) = true := beq_self_ofNat (by decide)
  have hchannel {high low : Nat} (hhigh : high < 16) (hlow : low < 16) :
      ((channel high low : α) == channel high low) = true := beq_self_fraction (by omega)
  unfold ofDigits? at h
  split at h
  all_goals cases h
  all_goals simp only [List.forall_mem_cons] at hdigits
  · obtain ⟨hr, hg, hb, -⟩ := hdigits
    exact inRange_ofRgb (hchannel hr hr) (hchannel hg hg) (hchannel hb hb) hopaque
  · obtain ⟨hr, hg, hb, ha, -⟩ := hdigits
    exact inRange_ofRgb (hchannel hr hr) (hchannel hg hg) (hchannel hb hb) (hchannel ha ha)
  · obtain ⟨hr, hr', hg, hg', hb, hb', -⟩ := hdigits
    exact inRange_ofRgb (hchannel hr hr') (hchannel hg hg') (hchannel hb hb') hopaque
  · obtain ⟨hr, hr', hg, hg', hb, hb', ha, ha', -⟩ := hdigits
    exact inRange_ofRgb (hchannel hr hr') (hchannel hg hg') (hchannel hb hb') (hchannel ha ha')

theorem inRange_ofHex {digits : List Char} (h : ofHex? digits = some resolved) : resolved.InRange := by
  obtain ⟨values, hvalues, hresolved⟩ := Option.bind_eq_some_iff.1 h
  exact inRange_ofDigits (forall_mem_hexDigits hvalues) hresolved

/-- What is no number counts as zero, and what is too large for a number too. -/
theorem beq_self_readComponent (word : String) {n : Nat} (hpositive : 0 < n) (hn : n ≤ 255) :
    ((readComponent word (Scalar.ofNat n) : α) == readComponent word (Scalar.ofNat n)) = true := by
  unfold readComponent
  split
  next => exact beq_self_ofNat (Nat.zero_le _)
  next number hnumber =>
    have hfinite := readNumber?_isFinite hnumber
    split
    · exact Scalar.Bounded.beq_self_div hfinite (by decide) (by decide)
    · exact Scalar.Bounded.beq_self_div hfinite hpositive hn

theorem inRange_ofFunction {name : String} {words : List String} (h : ofFunction? name words = some resolved) :
    resolved.InRange := by
  have hchannel (word : String) : ((readComponent word 255 : α) == readComponent word 255) = true :=
    beq_self_readComponent word (by decide) (by decide)
  have hink (word : String) : IsAlpha (Scalar.clamp (readComponent word 100 : α) 0 1) :=
    Scalar.Bounded.isAlpha_clamp (beq_self_readComponent word (by decide) (by decide))
  unfold ofFunction? at h
  split at h
  · dsimp only at h
    split at h
    · cases h
      exact inRange_ofRgb (hchannel _) (hchannel _) (hchannel _) (beq_self_ofNat (by decide))
    next alpha _ =>
      cases h
      exact inRange_ofRgb (hchannel _) (hchannel _) (hchannel _)
        (beq_self_readComponent alpha (by decide) (by decide))
    · cases h
  · split at h
    · dsimp only at h
      split at h
      · cases h
        refine ⟨?_, Scalar.Bounded.isAlpha_one⟩
        simp only [DeviceColor.InRange, DeviceColor.components, List.forall_mem_cons]
        exact ⟨hink _, hink _, hink _, hink _, List.forall_mem_nil _⟩
      · cases h
    · cases h

theorem inRange_ofName {name : String} (h : ofName? name = some resolved) : resolved.InRange := by
  obtain ⟨code, hcode, rfl⟩ := Option.map_eq_some_iff.1 h
  have hlimit := code_lt_of_lookup hcode
  exact inRange_ofRgb (beq_self_fraction (by omega)) (beq_self_fraction (by omega)) (beq_self_fraction (by omega))
    (beq_self_ofNat (by decide))

/-- Whatever a color value is, the components of the color and its alpha lie between zero and one. -/
theorem inRange_of_read {token : String} (h : read? token = some resolved) : resolved.InRange := by
  have hnumber {n : Nat} (hn : n ≤ 255) : ((Scalar.ofNat n : α) == Scalar.ofNat n) = true := beq_self_ofNat hn
  unfold read? at h
  dsimp only at h
  split at h
  · cases h
  · split at h
    · cases h
      exact inRange_ofRgb (hnumber (by decide)) (hnumber (by decide)) (hnumber (by decide)) (hnumber (by decide))
    · split at h
      · exact inRange_ofHex h
      · split at h
        · split at h
          · exact inRange_ofFunction h
          · cases h
        · exact inRange_ofName h

end ResolvedColor

end SvgPage
