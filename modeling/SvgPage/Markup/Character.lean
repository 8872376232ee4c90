namespace SvgPage.Markup

def inRanges (ranges : List (Nat × Nat)) (c : Char) : Bool :=
  ranges.any fun (first, last) => first ≤ c.toNat && c.toNat ≤ last

/-- The characters that can start a name. -/
def isNameStart (c : Char) : Bool :=
  c.isAlpha || c == ':' || c == '_' || inRanges
    [(0xC0, 0xD6), (0xD8, 0xF6), (0xF8, 0x2FF), (0x370, 0x37D), (0x37F, 0x1FFF), (0x200C, 0x200D),
      (0x2070, 0x218F), (0x2C00, 0x2FEF), (0x3001, 0xD7FF), (0xF900, 0xFDCF), (0xFDF0, 0xFFFD),
      (0x10000, 0xEFFFF)] c

/-- The characters that can follow in a name. -/
def isNameChar (c : Char) : Bool :=
  isNameStart c || c.isDigit || c == '-' || c == '.' ||
    inRanges [(0xB7, 0xB7), (0x300, 0x36F), (0x203F, 0x2040)] c

/-- The blanks of markup, once the ends of lines are all alike. -/
def isBlank (c : Char) : Bool := c == ' ' || c == '\t' || c == '\n'

def isQuote (c : Char) : Bool := c == '"' || c == '\''

/-- The characters that documents of the first version may not hold: control characters other than tab
    and ends of lines, and the two code points that are no characters. -/
def isForbidden (c : Char) : Bool :=
  (c.toNat < 0x20 && c != '\t' && c != '\n' && c != '\r') || c.toNat == 0xFFFE || c.toNat == 0xFFFF

/-- Later versions also forbid the second block of control characters in plain text, except for the one
    that ends a line. -/
def isForbiddenLater (c : Char) : Bool :=
  isForbidden c || (0x7F ≤ c.toNat && c.toNat ≤ 0x9F && c.toNat != 0x85)

/-- Whether a number stands for a character that a reference can denote. -/
def isReferable (later : Bool) (code : Nat) : Bool :=
  ((code ≤ 0xD7FF || (0xE000 ≤ code && code ≤ 0xFFFD) || (0x10000 ≤ code && code ≤ 0x10FFFF)) &&
    if later then code != 0 else 0x20 ≤ code || code == 9 || code == 10 || code == 13)

/-- Whether a character ends a line. -/
def isLineEnd (later : Bool) (c : Char) : Bool :=
  c == '\n' || c == '\r' || (later && (c == '\u0085' || c == '\u2028'))

end SvgPage.Markup
