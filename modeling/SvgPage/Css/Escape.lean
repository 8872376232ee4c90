import SvgPage.Text.Percent

namespace SvgPage.Css

/-- Replaces a backslash and the one or two hexadecimal digits after it by the character they name. -/
def unescapeHex : List Char → List Char
  | [] => []
  | '\\' :: high :: low :: rest =>
    match hexDigit? high, hexDigit? low with
    | some h, some l => Char.ofNat (16 * h + l) :: unescapeHex rest
    | some h, none => Char.ofNat h :: unescapeHex (low :: rest)
    | none, _ => '\\' :: unescapeHex (high :: low :: rest)
  | ['\\', digit] =>
    match hexDigit? digit with
    | some d => [Char.ofNat d]
    | none => ['\\', digit]
  | c :: rest => c :: unescapeHex rest

def isLineEnd (c : Char) : Bool := c == '\n' || c == '\r' || c == '\u2028' || c == '\u2029'

/-- Removes a backslash before any character that does not end a line. -/
def unescapeAny : List Char → List Char
  | [] => []
  | '\\' :: c :: rest => if isLineEnd c then '\\' :: c :: unescapeAny rest else c :: unescapeAny rest
  | c :: rest => c :: unescapeAny rest

/-- The text that a string or an address with escapes stands for. What the hexadecimal escapes name is
    read once more for other escapes. -/
def unescape (s : String) : String := String.ofList (unescapeAny (unescapeHex s.toList))

end SvgPage.Css
