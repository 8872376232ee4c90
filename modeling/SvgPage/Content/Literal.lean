namespace SvgPage.Literal

/-- How a character is written in a literal string: parentheses and backslashes after a backslash, and
    the two characters that end a line by their letters. -/
def escapeChar (c : Char) : List Char :=
  if c == '\\' || c == '(' || c == ')' then ['\\', c]
  else if c == '\r' then ['\\', 'r']
  else if c == '\n' then ['\\', 'n']
  else [c]

def escape (cs : List Char) : List Char := cs.flatMap escapeChar

/-- A text as a literal string of a content stream. -/
def write (s : String) : String := String.ofList ('(' :: escape s.toList ++ [')'])

end SvgPage.Literal
