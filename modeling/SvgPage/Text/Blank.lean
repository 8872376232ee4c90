namespace SvgPage.Text

/-- White space: the ASCII blanks from tab to carriage return and space, the Unicode space
    separators, the two separators of lines and paragraphs, and the byte order mark. Neither the
    next-line control nor the zero-width space counts. -/
def isBlank (c : Char) : Bool :=
  let code := c.toNat
  (9 ≤ code && code ≤ 13) || code == 0x20 || code == 0xA0 || code == 0x1680 ||
    (0x2000 ≤ code && code ≤ 0x200A) || code == 0x2028 || code == 0x2029 || code == 0x202F ||
    code == 0x205F || code == 0x3000 || code == 0xFEFF

/-- The characters without the ones at the end that `skip` accepts. -/
def dropTail (skip : Char → Bool) (cs : List Char) : List Char :=
  (cs.reverse.dropWhile skip).reverse

def trimStart (s : String) : String := String.ofList (s.toList.dropWhile isBlank)

def trimEnd (s : String) : String := String.ofList (dropTail isBlank s.toList)

def trim (s : String) : String := trimEnd (trimStart s)

/-- The pieces between runs of separators. A run at either end leaves an empty piece there, and a
    text without separators is its own only piece. -/
def splitRuns (separates : Char → Bool) (cs : List Char) : List (List Char) :=
  match h : cs.dropWhile (!separates ·) with
  | [] => [cs.takeWhile (!separates ·)]
  | separator :: rest =>
    have : (rest.dropWhile separates).length < cs.length := by
      have hrest := (List.dropWhile_suffix separates (l := rest)).length_le
      have hcs := (List.dropWhile_suffix (!separates ·) (l := cs)).length_le
      rw [h, List.length_cons] at hcs
      omega
    cs.takeWhile (!separates ·) :: splitRuns separates (rest.dropWhile separates)
termination_by cs.length

/-- Whether the character separates the entries of a list: white space or a comma. -/
def isListSeparator (c : Char) : Bool := isBlank c || c == ','

/-- The pieces between runs of white space. -/
def splitBlanks (s : String) : List String := (splitRuns isBlank s.toList).map String.ofList

/-- The pieces between runs of white space and commas. -/
def splitList (s : String) : List String := (splitRuns isListSeparator s.toList).map String.ofList

/-- The text with every run of white space replaced by one space. -/
def collapseBlanks (s : String) : String := String.intercalate " " (splitBlanks s)

/-- Whether a text occurs in another one. -/
def occursIn (part : List Char) : List Char → Bool
  | [] => part.isEmpty
  | c :: rest => part.isPrefixOf (c :: rest) || occursIn part rest

/-- The text with the ASCII capitals in lower case and every other character unchanged. -/
def lowerAscii (s : String) : String := String.ofList (s.toList.map Char.toLower)

end SvgPage.Text
