import SvgPage.Numeric.Binary

namespace SvgPage.Shortest

/-- The numbers that read back as one double, and the double itself, as natural multiples of
    `1 / unit`. The ends read back too when `closed` holds. -/
structure Range where
  low : Nat
  value : Nat
  high : Nat
  unit : Nat
  closed : Bool

namespace Range

/-- The numbers nearer to `mantissa · 2 ^ exponent` than to its neighbours, in units of
    `10 ^ grid`. Below a power of two the next smaller double is only half as far away. -/
def ofDouble (mantissa : Nat) (exponent grid : Int) : Range :=
  let (scale, unit) := Binary.scaled 1 (exponent - 2) (-grid)
  let narrow := mantissa == Nat.pow 2 52 && exponent != -1074
  { low := (4 * mantissa - if narrow then 1 else 2) * scale
    value := 4 * mantissa * scale
    high := (4 * mantissa + 2) * scale
    unit
    closed := mantissa % 2 == 0 }

def contains (r : Range) (n : Nat) : Bool :=
  if r.closed then r.low ≤ n * r.unit && n * r.unit ≤ r.high
  else r.low < n * r.unit && n * r.unit < r.high

/-- The natural number in the range that is nearest to the value; of two, the even one. Only the two
    neighbours of the value can be nearest. -/
def nearest? (r : Range) : Option Nat :=
  let below := r.value / r.unit
  let above := below + 1
  match r.contains below, r.contains above with
  | false, false => none
  | true, false => some below
  | false, true => some above
  | true, true =>
    let up := above * r.unit - r.value
    let down := r.value - below * r.unit
    some (if up < down || (up == down && above % 2 == 0) then above else below)

end Range

def digitCount (n : Nat) : Nat := (Nat.toDigits 10 n).length

/-- The exponent `p` with `10 ^ p ≤ mantissa · 2 ^ exponent < 10 ^ (p + 1)`. -/
def leadingExponent (mantissa : Nat) (exponent : Int) : Int :=
  let (numerator, denominator) := Binary.scaled mantissa exponent 0
  if denominator ≤ numerator then
    Int.ofNat (digitCount (numerator / denominator)) - 1
  else
    -Int.ofNat (digitCount (ceilDiv denominator numerator - 1))

/-- Removes the zeros at the end of a number and counts them. -/
def dropZeros (n : Nat) : Nat × Nat :=
  if h : n ≠ 0 ∧ n % 10 = 0 then
    have : n / 10 < n := Nat.div_lt_self (by omega) (by decide)
    let (rest, zeros) := dropZeros (n / 10)
    (rest, zeros + 1)
  else
    (n, 0)

/-- The fewest digits `n` with an exponent `e` such that `n · 10 ^ e` reads back as
    `mantissa · 2 ^ exponent`, and of those the nearest: the first of the grids with one digit, two
    digits and so on that has a number in the range. Seventeen digits always suffice. -/
def digits (mantissa : Nat) (exponent : Int) : Nat × Int :=
  let leading := leadingExponent mantissa exponent
  let onGrid (places : Nat) : Option (Nat × Int) :=
    let grid := leading - places
    (Range.ofDouble mantissa exponent grid).nearest?.map fun n =>
      let (rest, zeros) := dropZeros n
      (rest, grid + zeros)
  ((List.range 17).findSome? onGrid).getD (mantissa, exponent)

/-- Writes `n · 10 ^ e`. From a millionth up to 21 places before the point all digits are written out;
    beyond that the point follows the first digit and a signed power of ten ends the text. -/
def layout (n : Nat) (e : Int) : String :=
  let digits := Nat.toDigits 10 n
  let point := e + digits.length
  if digits.length ≤ point && point ≤ 21 then
    String.ofList (digits ++ List.replicate e.toNat '0')
  else if 0 < point && point ≤ 21 then
    String.ofList (digits.take point.toNat ++ '.' :: digits.drop point.toNat)
  else if -6 < point && point ≤ 0 then
    String.ofList ('0' :: '.' :: List.replicate (-point).toNat '0' ++ digits)
  else
    let power := point - 1
    let fraction := match digits with
      | _ :: next :: rest => '.' :: next :: rest
      | _ => []
    String.ofList (digits.take 1 ++ fraction ++ 'e' :: (if power < 0 then '-' else '+') ::
      Nat.toDigits 10 power.natAbs)

/-- The shortest text that reads back as the double. Zero has no sign. -/
def text (x : Float) : String :=
  match Binary.ofFloat x with
  | .notANumber => "NaN"
  | .infinite negative => if negative then "-Infinity" else "Infinity"
  | .finite negative mantissa exponent =>
    if mantissa == 0 then
      "0"
    else
      let (n, e) := digits mantissa exponent
      (if negative then "-" else "") ++ layout n e

end SvgPage.Shortest
