namespace SvgPage.Text

/-- How many 16-bit units a character takes. -/
def unitCount (c : Char) : Nat := if c.toNat < 0x10000 then 1 else 2

/-- The length of a text in 16-bit units. -/
def unitLength (s : String) : Nat := (s.toList.map unitCount).foldr (· + ·) 0

/-- The characters at the start that fit into a number of 16-bit units. -/
def takeUnits : Nat → List Char → List Char
  | _, [] => []
  | room, c :: rest => if unitCount c ≤ room then c :: takeUnits (room - unitCount c) rest else []

/-- The 16-bit units of a character: itself, or the two surrogates that stand for it. -/
def units (c : Char) : List Nat :=
  let code := c.toNat
  if code < 0x10000 then [code]
  else [0xD800 + (code - 0x10000) / 0x400, 0xDC00 + (code - 0x10000) % 0x400]

/-- The order of texts by their 16-bit units. It differs from the order by characters where one text has
    a character beyond the first plane. -/
def unitsLE (s t : String) : Bool :=
  !(t.toList.flatMap units).lex (s.toList.flatMap units) fun a b => decide (a < b)

end SvgPage.Text
