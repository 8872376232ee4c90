import Mathlib
import SvgPage.Proofs.Numeric.Bounded

namespace SvgPage

/-- Numbers that can be counted from zero before something is added to them, or they are reflected, or after it, with
    the same result. Sums of doubles that start with zero have no negative zero in them, and this is all that
    starting with zero changes. -/
class Scalar.Rebasing (α : Type) [Scalar α] : Prop where
  zero_add_zero : (0 : α) + 0 = 0
  zero_add_assoc : ∀ x y : α, 0 + x + y = 0 + (x + y)
  zero_add_reflect : ∀ x c : α, 2 * (0 + x) - (0 + c) = 0 + (2 * x - c)
  not_abs_lt_zero : ∀ x : α, ¬Scalar.abs x < 0

namespace Double

open Float.Model UnpackedFloat

/-- Numbers without the negative zero, in a form that is packed to no zero if it is none. -/
inductive Based : UnpackedFloat → Prop
  | notANumber : Based .notANumber
  | infinity (sign) : Based (.infinity sign)
  | zero : Based (.zero .positive)
  | finite {sign mantissa exponent hmantissa} (hexponent : -1074 ≤ exponent) (hbits : mantissa < 2 ^ 53) :
      Based (.finite sign mantissa exponent hmantissa)

theorem based_or_eq (x : Float) : Based x.toModel.unpack ∨ x.toModel.unpack = .zero .negative := by
  cases hx : x.toModel.unpack with
  | notANumber => exact .inl .notANumber
  | infinity s => exact .inl (.infinity s)
  | zero s =>
    cases s with
    | positive => exact .inl .zero
    | negative => exact .inr rfl
  | finite s m e hm =>
    have hform := unpack_finite hx
    exact .inl (.finite (by omega) (by omega))

section Pack

theorem unpack_packComponents_ne_zero {sign : Sign} {exponent : BitVec 11} {mantissa : BitVec 52}
    (h : exponent = 0#11 → mantissa ≠ 0#52) (t : Sign) :
    UnpackedFloat.unpack Format.binary64 (packComponents Format.binary64 sign exponent mantissa) ≠ .zero t := by
  simp only [UnpackedFloat.unpack, unpackExponent_packComponents, unpackMantissa_packComponents]
  split
  · split <;> rintro ⟨⟩
  · split
    next hexponent =>
      rw [dif_neg (h hexponent)]
      rintro ⟨⟩
    · rintro ⟨⟩

/-- Packing makes no negative zero. -/
theorem unpack_pack_ne {x : UnpackedFloat} (h : Based x) : (Float.Model.pack x).unpack ≠ .zero .negative := by
  rw [Float.Model.unpack, Float.Model.pack, UInt64.toBitVec_ofBitVec]
  cases h with
  | notANumber => exact unpack_packComponents_ne_zero (fun hexponent => absurd hexponent (by decide)) _
  | infinity s => exact unpack_packComponents_ne_zero (fun hexponent => absurd hexponent (by decide)) _
  | zero =>
    rw [UnpackedFloat.pack, unpack_packedZero]
    rintro ⟨⟩
  | @finite s m e hm he hbits =>
    let biased := (e + 1023 + 52).toNat
    rw [UnpackedFloat.pack]
    split
    · exact unpack_packComponents_ne_zero (fun hexponent => absurd hexponent (by decide)) _
    next hsmall =>
      have hbelow : biased < 2 ^ 11 := Nat.lt_of_succ_lt (not_le.1 hsmall)
      split
      · refine unpack_packComponents_ne_zero (fun hexponent => ?_) _
        have hvalue : biased % 2 ^ 11 = 0 := congrArg BitVec.toNat hexponent
        rw [Nat.mod_eq_of_lt hbelow] at hvalue
        omega
      next hlog =>
        refine unpack_packComponents_ne_zero (fun _ hmantissa => hm.ne' ?_) _
        have hleading : m.log2 ≠ 52 := fun hlast => hlog (by rw [hlast]; rfl)
        have hplaces : m.log2 < 53 := (Nat.log2_lt hm.ne').2 hbits
        have hmbelow : m < 2 ^ 52 := (Nat.log2_lt hm.ne').1 (by omega)
        have hvalue : m % 2 ^ 52 = 0 := congrArg BitVec.toNat hmantissa
        rwa [Nat.mod_eq_of_lt hmbelow] at hvalue

end Pack

section Round

theorem le_roundedMantissa (em : ExtendedMantissa) : em.mantissa ≤ em.roundedMantissa := by
  obtain ⟨m, round, sticky⟩ := em
  cases round <;> cases sticky
  all_goals
    simp only [ExtendedMantissa.roundedMantissa, ExtendedMantissa.accuracy, Accuracy.roundToNearestEven]
    omega

/-- A number that reaches the last place does so after the shift that leaves it no more places than there are. -/
theorem shift_bounds {m : Nat} {e : Int} (hm : 2 ^ (-1074 - e).toNat ≤ m) :
    let shift := (Format.binary64.targetExponent (totalExponent m e) - e).toNat
    0 < m / 2 ^ shift ∧ m / 2 ^ shift < 2 ^ 53 ∧ -1074 ≤ e + shift := by
  intro shift
  have hpos : m ≠ 0 := (Nat.lt_of_lt_of_le (Nat.two_pow_pos _) hm).ne'
  have hlog : (-1074 - e).toNat ≤ m.log2 := (Nat.le_log2 hpos).2 hm
  have hshift : shift = (Max.max ((m.log2 : Int) + 1 + e - 53) (-1074) - e).toNat := rfl
  refine ⟨Nat.div_pos ?_ (Nat.two_pow_pos _), Nat.div_lt_of_lt_mul ?_, by omega⟩
  · exact (Nat.pow_le_pow_right Nat.two_pos (by omega)).trans (Nat.log2_self_le hpos)
  · rw [← Nat.pow_add]
    exact Nat.lt_log2_self.trans_le (Nat.pow_le_pow_right Nat.two_pos (by omega))

/-- A number that reaches the last place is not rounded to zero. -/
theorem roundWithAccuracy_based {m : Nat} {e : Int} (hm : 2 ^ (-1074 - e).toNat ≤ m) (s : Sign) :
    Based (roundWithAccuracy Format.binary64 s m e .exact) := by
  obtain ⟨hpos, -, hexponent⟩ := shift_bounds hm
  have hreach : 2 ^ (-1074 - (e + (Format.binary64.targetExponent (totalExponent m e) - e).toNat)).toNat ≤
      (ExtendedMantissa.mk m false false >>>
        (Format.binary64.targetExponent (totalExponent m e) - e).toNat).roundedMantissa := by
    rw [Int.toNat_of_nonpos (by omega), Nat.pow_zero]
    rw [← mantissa_shiftRight ⟨m, false, false⟩] at hpos
    exact hpos.trans_le (le_roundedMantissa _)
  obtain ⟨hleft, hbits, hfinal⟩ := shift_bounds hreach
  rw [← mantissa_shiftRight ⟨_, false, false⟩] at hleft hbits
  have hfinite : roundWithAccuracy Format.binary64 s m e .exact = .finite s _ _ hleft := dif_neg hleft.ne'
  rw [hfinite]
  exact .finite hfinal hbits

theorem round_based {m : Nat} {e : Int} (hm : 0 < m) (he : -1074 ≤ e) (s : Sign) :
    Based (UnpackedFloat.round Format.binary64 s m e) := by
  have htarget : (-1074 : Int) ≤ Format.binary64.targetExponent (totalExponent m e) := le_max_right _ _
  refine roundWithAccuracy_based ?_ s
  have hexponent : (-1074 : Int) ≤ e - (e - Format.binary64.targetExponent (totalExponent m e)).toNat := by omega
  change 2 ^ (-1074 - (e - (e - Format.binary64.targetExponent (totalExponent m e)).toNat)).toNat ≤ _
  rw [Int.toNat_of_nonpos (by omega), Nat.pow_zero]
  exact Nat.shiftLeft_pos_iff.2 hm

theorem normalize_based (m : Int) {e : Int} (he : -1074 ≤ e) :
    Based (normalize Format.binary64 m e .positive) := by
  rw [UnpackedFloat.normalize]
  split
  next h => exact round_based (by have := Int.compare_eq_lt.1 h; omega) he _
  · exact .zero
  next h => exact round_based (by have := Int.compare_eq_gt.1 h; omega) he _

end Round

section Operations

variable {x y : UnpackedFloat}

theorem add_based (hx : Based x) (hy : Based y ∨ y = .zero .negative) :
    Based (UnpackedFloat.add Format.binary64 x y) := by
  obtain hy | rfl := hy
  · cases hx with
    | notANumber => exact .notANumber
    | infinity s =>
      cases hy with
      | notANumber => exact .notANumber
      | infinity t => cases s <;> cases t <;> constructor
      | zero => exact .infinity s
      | finite => exact .infinity s
    | zero => cases hy with
      | finite hexponent hbits => exact .finite hexponent hbits
      | _ => constructor
    | finite hexponent hbits => cases hy with
      | notANumber => exact .notANumber
      | infinity t => exact .infinity t
      | zero => exact .finite hexponent hbits
      | finite hexponent' hbits' => exact normalize_based _ (le_min hexponent hexponent')
  · cases hx with
    | finite hexponent hbits => exact .finite hexponent hbits
    | _ => constructor

theorem sub_eq_add_neg (x y : UnpackedFloat) :
    UnpackedFloat.sub Format.binary64 x y = UnpackedFloat.add Format.binary64 x y.neg := by
  cases x with
  | finite s m e hm =>
    cases y with
    | finite t m' e' hm' =>
      have hsign (n : Int) : (-t).apply n = -t.apply n := by
        cases t with
        | positive => rfl
        | negative => exact (Int.neg_neg n).symm
      simp only [UnpackedFloat.sub, UnpackedFloat.add, UnpackedFloat.neg]
      rw [hsign, Int.sub_eq_add_neg]
    | _ => rfl
  | _ => cases y <;> rfl

theorem based_neg_or_eq (h : Based y ∨ y = .zero .negative) : Based y.neg ∨ y.neg = .zero .negative := by
  obtain h | rfl := h
  · cases h with
    | notANumber => exact .inl .notANumber
    | infinity s => exact .inl (.infinity _)
    | zero => exact .inr rfl
    | finite hexponent hbits => exact .inl (.finite hexponent hbits)
  · exact .inl .zero

theorem sub_based (hx : Based x) (hy : Based y ∨ y = .zero .negative) :
    Based (UnpackedFloat.sub Format.binary64 x y) := by
  rw [sub_eq_add_neg]
  exact add_based hx (based_neg_or_eq hy)

theorem two_mul_based (hx : Based x) :
    Based (UnpackedFloat.mul Format.binary64 (.finite .positive (2 ^ 52) (-51) (by decide)) x) := by
  cases hx with
  | notANumber => exact .notANumber
  | infinity s => exact .infinity _
  | zero => exact .zero
  | @finite s m e hm hexponent hbits =>
    refine roundWithAccuracy_based ?_ _
    have hplaces : 2 ^ (-1074 - (-51 + e)).toNat ≤ 2 ^ 52 := Nat.pow_le_pow_right Nat.two_pos (by omega)
    exact hplaces.trans (Nat.le_mul_of_pos_right _ hm)

/-- A zero of either sign changes nothing in front of other numbers than the negative zero. -/
theorem zero_add_eq (hx : Based x) (s : Sign) : UnpackedFloat.add Format.binary64 (.zero s) x = x := by
  cases hx with
  | zero => cases s <;> rfl
  | _ => rfl

theorem sub_zero_eq (hx : Based x) (s : Sign) : UnpackedFloat.sub Format.binary64 x (.zero s) = x := by
  cases hx with
  | zero => cases s <;> rfl
  | _ => rfl

/-- The sign of a zero counts for nothing in front of a difference that is no zero. -/
theorem zero_sub_eq (hx : Based x) (hzero : x ≠ .zero .positive) (s t : Sign) :
    UnpackedFloat.sub Format.binary64 (.zero s) x = UnpackedFloat.sub Format.binary64 (.zero t) x := by
  cases hx with
  | zero => exact absurd rfl hzero
  | _ => rfl

end Operations

section Laws

def negativeZero : Float := -Scalar.ofDecimal 0 0

theorem unpack_negativeZero : negativeZero.toModel.unpack = .zero .negative := by
  rfl

variable {x y : Float}

/-- Nothing is lost when a double is unpacked. -/
theorem ofModel_pack_unpack (x : Float) : Float.ofModel (.pack x.toModel.unpack) = x := Float.ofBits_toBits x

theorem based_or_eq_negativeZero (x : Float) : Based x.toModel.unpack ∨ x = negativeZero := by
  refine (based_or_eq x).imp_right fun hx => ?_
  rw [← ofModel_pack_unpack x, hx, ← unpack_negativeZero, ofModel_pack_unpack]

theorem based_of_pack {u : UnpackedFloat} (h : Based u) : Based (Float.Model.pack u).unpack :=
  (based_or_eq (.ofModel (.pack u))).resolve_right (unpack_pack_ne h)

theorem zero_add_of_based {z : Float} {s : Sign} (hz : z.toModel.unpack = .zero s) (hx : Based x.toModel.unpack) :
    z + x = x := by
  have hadd : z + x = .ofModel (.pack (UnpackedFloat.add Format.binary64 z.toModel.unpack x.toModel.unpack)) := rfl
  rw [hadd, hz, zero_add_eq hx, ofModel_pack_unpack]

theorem sub_zero_of_based {z : Float} {s : Sign} (hz : z.toModel.unpack = .zero s) (hx : Based x.toModel.unpack) :
    x - z = x := by
  have hsub : x - z = .ofModel (.pack (UnpackedFloat.sub Format.binary64 x.toModel.unpack z.toModel.unpack)) := rfl
  rw [hsub, hz, sub_zero_eq hx, ofModel_pack_unpack]

theorem zero_add_negativeZero : Scalar.ofDecimal 0 0 + negativeZero = Scalar.ofDecimal 0 0 := by
  rfl

theorem zero_add_zero_add (x y : Float) : Scalar.ofDecimal 0 0 + x + y = Scalar.ofDecimal 0 0 + (x + y) := by
  obtain hx | rfl := based_or_eq_negativeZero x
  · have hsum : Based (x + y).toModel.unpack := based_of_pack (add_based hx (based_or_eq y))
    rw [zero_add_of_based unpack_zero hx, zero_add_of_based unpack_zero hsum]
  · rw [zero_add_negativeZero]
    obtain hy | rfl := based_or_eq_negativeZero y
    · rw [zero_add_of_based unpack_negativeZero hy]
    · rfl

theorem zero_add_zero_sub {z : Float} {s : Sign} (hz : z.toModel.unpack = .zero s) (hx : Based x.toModel.unpack) :
    Scalar.ofDecimal 0 0 + (z - x) = Scalar.ofDecimal 0 0 - x := by
  have hsub (z : Float) :
      z - x = .ofModel (.pack (UnpackedFloat.sub Format.binary64 z.toModel.unpack x.toModel.unpack)) := rfl
  by_cases hzero : x.toModel.unpack = .zero .positive
  · rw [hsub, hsub, hz, hzero, unpack_zero]
    cases s <;> rfl
  · have hdifference : Based (Scalar.ofDecimal 0 0 - x).toModel.unpack := based_of_pack (sub_based .zero (.inl hx))
    have hsame : z - x = Scalar.ofDecimal 0 0 - x := by
      rw [hsub, hsub, hz, unpack_zero, zero_sub_eq hx hzero s .positive]
    rw [hsame, zero_add_of_based unpack_zero hdifference]

theorem zero_add_reflect (x c : Float) :
    Scalar.ofDecimal 2 0 * (Scalar.ofDecimal 0 0 + x) - (Scalar.ofDecimal 0 0 + c) =
      Scalar.ofDecimal 0 0 + (Scalar.ofDecimal 2 0 * x - c) := by
  obtain hx | rfl := based_or_eq_negativeZero x
  · have hdouble : Based (Scalar.ofDecimal 2 0 * x).toModel.unpack := based_of_pack (two_mul_based hx)
    rw [zero_add_of_based unpack_zero hx]
    obtain hc | rfl := based_or_eq_negativeZero c
    · have hdifference : Based (Scalar.ofDecimal 2 0 * x - c).toModel.unpack :=
        based_of_pack (sub_based hdouble (.inl hc))
      rw [zero_add_of_based unpack_zero hc, zero_add_of_based unpack_zero hdifference]
    · rw [zero_add_negativeZero, sub_zero_of_based unpack_zero hdouble,
        sub_zero_of_based unpack_negativeZero hdouble, zero_add_of_based unpack_zero hdouble]
  · have hzero : Scalar.ofDecimal 2 0 * Scalar.ofDecimal 0 0 = (Scalar.ofDecimal 0 0 : Float) := by
      rfl
    have hnegative : (Scalar.ofDecimal 2 0 * negativeZero).toModel.unpack = .zero .negative := by
      rfl
    rw [zero_add_negativeZero, hzero]
    obtain hc | rfl := based_or_eq_negativeZero c
    · rw [zero_add_of_based unpack_zero hc, zero_add_zero_sub hnegative hc]
    · rfl

/-- What has no sign is not below zero. -/
theorem not_abs_lt_zero (x : Float) : ¬Scalar.abs x < Scalar.ofDecimal 0 0 := by
  have hpack : ∃ exponent mantissa, x.toModel.unpack.abs.pack Format.binary64 =
      packComponents Format.binary64 .positive exponent mantissa := by
    cases x.toModel.unpack with
    | finite s m e hm =>
      simp only [UnpackedFloat.abs, UnpackedFloat.pack]
      split
      · exact ⟨_, _, rfl⟩
      · split <;> exact ⟨_, _, rfl⟩
    | _ => exact ⟨_, _, rfl⟩
  obtain ⟨exponent, mantissa, hpack⟩ := hpack
  have habs : (Scalar.abs x).toModel.unpack =
      UnpackedFloat.unpack Format.binary64 (packComponents Format.binary64 .positive exponent mantissa) := by
    rw [← hpack]
    rfl
  rw [lt_iff, habs, unpack_zero]
  simp only [UnpackedFloat.unpack, unpackExponent_packComponents, unpackMantissa_packComponents,
    unpackSign_packComponents, Sign.ofBitVec_toBitVec]
  split
  · split <;> rintro ⟨⟩
  · split
    · split <;> rintro ⟨⟩
    · rintro ⟨⟩

end Laws

instance : Scalar.Rebasing Float where
  zero_add_zero := by rfl
  zero_add_assoc := zero_add_zero_add
  zero_add_reflect := zero_add_reflect
  not_abs_lt_zero := not_abs_lt_zero

end Double

end SvgPage
