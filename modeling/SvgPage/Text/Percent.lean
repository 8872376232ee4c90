import SvgPage.Text.Utf8

namespace SvgPage

/-- The number a hexadecimal digit stands for. -/
def hexDigit? (c : Char) : Option Nat :=
  if c.isDigit then some (c.toNat - '0'.toNat)
  else if 'a' ≤ c && c ≤ 'f' then some (c.toNat - 'a'.toNat + 10)
  else if 'A' ≤ c && c ≤ 'F' then some (c.toNat - 'A'.toNat + 10)
  else none

namespace Percent

/-- The bytes of a text in which `%` and two hexadecimal digits stand for one byte and every other
    character for its own bytes. -/
def bytes? : List Char → Option (List UInt8)
  | [] => some []
  | '%' :: high :: low :: rest => do
    let high ← hexDigit? high
    let low ← hexDigit? low
    let bytes ← bytes? rest
    return (high * 16 + low).toUInt8 :: bytes
  | c :: rest => if c == '%' then none else (bytes? rest).map (Utf8.encodeChar c ++ ·)

/-- Decodes escaped text to its bytes. Fails on an incomplete escape and on bytes that are no text. -/
def decode? (s : String) : Option (List UInt8) := (bytes? s.toList).filter Utf8.isValid

end Percent

end SvgPage
