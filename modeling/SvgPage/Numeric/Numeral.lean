import SvgPage.Numeric.Scalar
import SvgPage.Text.Blank

namespace SvgPage

/-- A number written in decimal digits: `digits · 10 ^ exponent`, or its opposite. A negative zero
    is told apart from zero. -/
structure Decimal where
  negative : Bool
  digits : Nat
  exponent : Int
deriving DecidableEq, Repr

namespace Decimal

variable {α : Type} [Scalar α]

/-- The number nearest to the written one. -/
def value (d : Decimal) : α :=
  if d.negative then -Scalar.ofDecimal d.digits d.exponent else Scalar.ofDecimal d.digits d.exponent

/-- The natural number with the given decimal digits. -/
def ofDigits (digits : List Char) : Nat :=
  digits.foldl (fun n c => 10 * n + (c.toNat - '0'.toNat)) 0

/-- Takes an optional sign; `true` stands for minus. -/
def scanSign : List Char → Bool × List Char
  | '-' :: rest => (true, rest)
  | '+' :: rest => (false, rest)
  | cs => (false, cs)

/-- Takes digits with an optional fraction, or a fraction alone. The result has the digits, how many
    of them stand after the point, and the text that follows. -/
def scanMagnitude (cs : List Char) : Option (List Char × Nat × List Char) :=
  let whole := cs.takeWhile Char.isDigit
  match cs.dropWhile Char.isDigit with
  | '.' :: rest =>
    let fraction := rest.takeWhile Char.isDigit
    if whole.isEmpty && fraction.isEmpty then
      none
    else
      some (whole ++ fraction, fraction.length, rest.dropWhile Char.isDigit)
  | rest => if whole.isEmpty then none else some (whole, 0, rest)

/-- Takes a power of ten such as `e-3`. Without digits after it an `e` is left in place. -/
def scanExponent : List Char → Int × List Char
  | c :: rest =>
    if c == 'e' || c == 'E' then
      let (negative, unsigned) := scanSign rest
      let digits := unsigned.takeWhile Char.isDigit
      if digits.isEmpty then
        (0, c :: rest)
      else
        let size : Int := ofDigits digits
        (if negative then -size else size, unsigned.dropWhile Char.isDigit)
    else
      (0, c :: rest)
  | [] => (0, [])

/-- Takes a signed number without a power of ten. -/
def scanFixed (cs : List Char) : Option (Decimal × List Char) :=
  let (negative, unsigned) := scanSign cs
  (scanMagnitude unsigned).map fun (digits, places, rest) =>
    (⟨negative, ofDigits digits, -places⟩, rest)

/-- Takes a signed number with an optional power of ten. -/
def scan (cs : List Char) : Option (Decimal × List Char) :=
  (scanFixed cs).map fun (fixed, rest) =>
    let (exponent, rest) := scanExponent rest
    (⟨fixed.negative, fixed.digits, fixed.exponent + exponent⟩, rest)

end Decimal

/-- What a text that starts with a number denotes. -/
inductive Numeral where
  | finite (decimal : Decimal)
  | infinite (negative : Bool)
deriving DecidableEq, Repr

namespace Numeral

variable {α : Type} [Scalar α]

/-- The number at the start of a text, after white space. What follows the number is not looked at. -/
def read? (s : String) : Option Numeral :=
  let cs := s.toList.dropWhile Text.isBlank
  match Decimal.scan cs with
  | some (decimal, _) => some (finite decimal)
  | none =>
    let (negative, unsigned) := Decimal.scanSign cs
    if "Infinity".toList.isPrefixOf unsigned then some (infinite negative) else none

/-- The number itself, unless it is infinite or too large for the type. -/
def value? : Numeral → Option α
  | finite decimal =>
    let value : α := decimal.value
    if Scalar.isFinite value then some value else none
  | infinite _ => none

end Numeral

/-- The number at the start of a text, if there is one and it is not too large. -/
def readNumber? {α : Type} [Scalar α] (s : String) : Option α := Numeral.read? s >>= Numeral.value?

end SvgPage
