namespace SvgPage

/-- A double taken apart. A finite one is `mantissa · 2 ^ exponent` or its opposite, with a mantissa
    below `2 ^ 53`. -/
inductive Binary where
  | notANumber
  | infinite (negative : Bool)
  | finite (negative : Bool) (mantissa : Nat) (exponent : Int)
deriving DecidableEq, Repr

namespace Binary

/-- Reads sign, exponent and fraction from the 64 bits. The numbers with the smallest exponent have no
    leading one, all others have one that is not written. -/
def ofBits (bits : UInt64) : Binary :=
  let n := bits.toNat
  let negative := n / Nat.pow 2 63 == 1
  let biased : Nat := n / Nat.pow 2 52 % Nat.pow 2 11
  let fraction := n % Nat.pow 2 52
  if biased == Nat.pow 2 11 - 1 then
    if fraction == 0 then infinite negative else notANumber
  else if biased == 0 then
    finite negative fraction (-1074)
  else
    finite negative (Nat.pow 2 52 + fraction) (Int.ofNat biased - 1075)

def ofFloat (x : Float) : Binary := ofBits x.toBits

/-- Numerator and denominator of `n · 2 ^ e · 10 ^ d`. -/
def scaled (n : Nat) (e d : Int) : Nat × Nat :=
  (n * Nat.pow 2 e.toNat * Nat.pow 10 d.toNat, Nat.pow 2 (-e).toNat * Nat.pow 10 (-d).toNat)

end Binary

/-- The natural number nearest to a quotient; a half goes up. -/
def roundHalfUp (numerator denominator : Nat) : Nat :=
  (2 * numerator + denominator) / (2 * denominator)

/-- The least natural number that is not below a quotient. -/
def ceilDiv (numerator denominator : Nat) : Nat :=
  (numerator + denominator - 1) / denominator

end SvgPage
