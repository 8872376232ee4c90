import Mathlib.Tactic.Ring
import SvgPage.Geometry.Matrix
import SvgPage.Proofs.Numeric.Laws

namespace SvgPage

variable {α : Type} [Scalar α] [Scalar.Exact α]

namespace Scalar.Exact

theorem mul_zero (x : α) : x * 0 = 0 := by
  have hdouble : x * 0 + x * 0 = x * 0 := by
    rw [← mul_add, add_zero]
  calc x * 0 = x * 0 + (x * 0 + -(x * 0)) := by rw [add_neg, add_zero]
    _ = x * 0 + -(x * 0) := by rw [← add_assoc, hdouble]
    _ = 0 := add_neg _

/-- Exact numbers are a ring with their own operations and numerals. -/
@[reducible] def commRing : CommRing α where
  add := (· + ·)
  add_assoc := add_assoc
  zero := 0
  zero_add x := (add_comm 0 x).trans (add_zero x)
  add_zero := add_zero
  nsmul := nsmulRec
  neg := (- ·)
  sub := (· - ·)
  sub_eq_add_neg := sub_eq
  zsmul := zsmulRec
  neg_add_cancel x := (add_comm (-x) x).trans (add_neg x)
  add_comm := add_comm
  mul := (· * ·)
  left_distrib := mul_add
  right_distrib x y z := by
    change (x + y) * z = x * z + y * z
    rw [mul_comm, mul_add, mul_comm z, mul_comm z]
  zero_mul x := (mul_comm 0 x).trans (mul_zero x)
  mul_zero := mul_zero
  mul_assoc := mul_assoc
  one := 1
  one_mul x := (mul_comm 1 x).trans (mul_one x)
  mul_one := mul_one
  mul_comm := mul_comm

end Scalar.Exact

namespace Matrix

omit [Scalar α] [Scalar.Exact α] in
theorem ext {m n : Matrix α} (ha : m.a = n.a) (hb : m.b = n.b) (hc : m.c = n.c) (hd : m.d = n.d)
    (he : m.e = n.e) (hf : m.f = n.f) : m = n := by
  cases m
  cases n
  simp_all

/-- A map that counts as the identity is the identity. -/
theorem eq_identity_of_isIdentity {m : Matrix α} (h : m.isIdentity = true) : m = identity := by
  simp only [isIdentity, Bool.and_eq_true, Scalar.Exact.beq_iff_eq] at h
  obtain ⟨⟨⟨⟨⟨ha, hb⟩, hc⟩, hd⟩, he⟩, hf⟩ := h
  exact ext ha hb hc hd he hf

theorem multiply_identity (m : Matrix α) : m.multiply identity = m := by
  let _ : CommRing α := Scalar.Exact.commRing
  simp only [multiply, identity]
  apply ext <;> grind

theorem identity_multiply (m : Matrix α) : identity.multiply m = m := by
  let _ : CommRing α := Scalar.Exact.commRing
  simp only [multiply, identity]
  apply ext <;> grind

theorem multiply_assoc (m n o : Matrix α) : (m.multiply n).multiply o = m.multiply (n.multiply o) := by
  let _ : CommRing α := Scalar.Exact.commRing
  simp only [multiply]
  apply ext <;> grind

theorem flip_identity (pageHeight : α) : (identity : Matrix α).flip pageHeight = identity := by
  let _ : CommRing α := Scalar.Exact.commRing
  simp only [flip, identity]
  apply ext <;> grind

/-- Turning the page upside down respects composition. -/
theorem flip_multiply (m n : Matrix α) (pageHeight : α) :
    (m.multiply n).flip pageHeight = (m.flip pageHeight).multiply (n.flip pageHeight) := by
  let _ : CommRing α := Scalar.Exact.commRing
  simp only [flip, multiply]
  apply ext <;> grind

end Matrix

end SvgPage
