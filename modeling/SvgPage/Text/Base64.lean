import SvgPage.Text.Units

namespace SvgPage.Base64

/-- The six bits a character stands for, in the usual alphabet or the one for addresses. -/
def value? (c : Char) : Option Nat :=
  if c.isUpper then some (c.toNat - 'A'.toNat)
  else if c.isLower then some (c.toNat - 'a'.toNat + 26)
  else if c.isDigit then some (c.toNat - '0'.toNat + 52)
  else if c == '+' || c == '-' then some 62
  else if c == '/' || c == '_' then some 63
  else none

/-- Three bytes for every four values. Of an incomplete group only whole bytes are kept. -/
def bytes : List Nat → List UInt8
  | a :: b :: c :: d :: rest =>
    (a * 4 + b / 16).toUInt8 :: (b % 16 * 16 + c / 4).toUInt8 :: (c % 4 * 64 + d).toUInt8 :: bytes rest
  | [a, b, c] => [(a * 4 + b / 16).toUInt8, (b % 16 * 16 + c / 4).toUInt8]
  | [a, b] => [(a * 4 + b / 16).toUInt8]
  | _ => []

/-- The text with each of its 16-bit units cut down to eight bits. -/
def narrow (s : String) : List Char :=
  (s.toList.flatMap Text.units).map fun unit => Char.ofNat (unit % 0x100)

/-- Decodes up to the first padding character, skipping what is not in the alphabet. -/
def decode (s : String) : List UInt8 := bytes (((narrow s).takeWhile (· != '=')).filterMap value?)

end SvgPage.Base64
