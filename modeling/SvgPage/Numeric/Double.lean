import SvgPage.Numeric.Scalar
import SvgPage.Numeric.Shortest

namespace SvgPage.Double

def notANumber : Float := 0.0 / 0.0

def infinity : Float := 1.0 / 0.0

/-- Whether the sign bit is set, which tells the two zeros apart. -/
def isNegative (x : Float) : Bool := x.toBits.toNat / Nat.pow 2 63 == 1

/-- The smaller of two doubles, negative zero being smaller than zero. It is no number if either is
    none. -/
def min (x y : Float) : Float :=
  if x != x || y != y then notANumber
  else if x < y then x
  else if y < x then y
  else if isNegative x then x else y

/-- The larger of two doubles, with the conventions of `min`. -/
def max (x y : Float) : Float :=
  if x != x || y != y then notANumber
  else if x < y then y
  else if y < x then x
  else if isNegative x then y else x

/-- The double nearest to `digits · 10 ^ exponent`. Where the leading digit stands decides alone about
    numbers that are far too large or too small. -/
def ofDecimal (digits : Nat) (exponent : Int) : Float :=
  let magnitude := exponent + Shortest.digitCount digits
  if digits == 0 || magnitude < -330 then 0
  else if 310 < magnitude then infinity
  else Float.ofScientific digits (exponent < 0) exponent.natAbs

/-- Zero for what is negative or has no least upper natural number. -/
def ceilNat (x : Float) : Nat :=
  match Binary.ofFloat x with
  | .finite false mantissa exponent =>
    let (numerator, denominator) := Binary.scaled mantissa exponent 0
    ceilDiv numerator denominator
  | _ => 0

instance : Scalar Float where
  beq := Float.beq
  min := min
  max := max
  decideLT := Float.decLt
  decideLE := Float.decLe
  ofDecimal := ofDecimal
  isFinite x := match Binary.ofFloat x with
    | .finite .. => true
    | _ => false
  sqrt := Float.sqrt
  abs := Float.abs
  sin := Float.sin
  cos := Float.cos
  tan := Float.tan
  atan2 := Float.atan2
  pi := ofDecimal 3141592653589793 (-15)
  ceilNat := ceilNat
  toText := Shortest.text

end SvgPage.Double
