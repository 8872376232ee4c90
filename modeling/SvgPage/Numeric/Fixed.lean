import SvgPage.Numeric.Shortest

namespace SvgPage.Fixed

/-- The multiple of a millionth nearest to `mantissa · 2 ^ exponent`, a half going up, as a count of
    millionths. -/
def millionths (mantissa : Nat) (exponent : Int) : Nat :=
  let (numerator, denominator) := Binary.scaled mantissa exponent 6
  roundHalfUp numerator denominator

/-- Writes a count of millionths with a point before the last six digits. -/
def layout (n : Nat) : String :=
  let fraction := Nat.toDigits 10 (n % 1000000)
  String.ofList (Nat.toDigits 10 (n / 1000000) ++ '.' :: List.replicate (6 - fraction.length) '0' ++
    fraction)

/-- The number with six places after the point, as a content stream writes it; a number that rounds
    to zero has no sign. Numbers from `10 ^ 21` on, infinities and the value that is no number have
    no such form and are written with the fewest digits. -/
def text (x : Float) : String :=
  match Binary.ofFloat x with
  | .finite negative mantissa exponent =>
    let (numerator, denominator) := Binary.scaled mantissa exponent (-21)
    if denominator ≤ numerator then
      Shortest.text x
    else
      let n := millionths mantissa exponent
      (if negative && n != 0 then "-" else "") ++ layout n
  | _ => Shortest.text x

end SvgPage.Fixed
