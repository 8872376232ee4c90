import SvgPage.Text.CaseRuns

namespace SvgPage.Text

def isCased (c : Char) : Bool := casedRuns.any fun (first, last) => first ≤ c.toNat && c.toNat ≤ last

def isCaseIgnored (c : Char) : Bool :=
  ignoredRuns.any fun (first, last) => first ≤ c.toNat && c.toNat ≤ last

/-- The lower-case form of a letter where it has one character. -/
def lowerChar (c : Char) : Char :=
  let code := c.toNat
  if code < 0x80 then
    c.toLower
  else
    match lowerRuns.find? fun (first, last, step, _) =>
        first ≤ code && code ≤ last && (code - first) % step == 0 with
    | some (_, _, _, distance) => Char.ofNat (Int.ofNat code + distance).toNat
    | none => c

/-- Whether the first of the characters that matters for a neighbour has a case. -/
def touchesCased (cs : List Char) : Bool := (cs.dropWhile isCaseIgnored).head?.any isCased

/-- The lower-case form of a character between others, those before it in reverse. A sigma at the end
    of a word has a form of its own, and the capital I with a dot keeps its dot as a mark. -/
def lowerBetween (before : List Char) (c : Char) (after : List Char) : List Char :=
  if c == 'Σ' && touchesCased before && !touchesCased after then ['ς']
  else if c == 'İ' then ['i', '\u0307']
  else [lowerChar c]

def lowerAfter (before : List Char) : List Char → List Char
  | [] => []
  | c :: rest => lowerBetween before c rest ++ lowerAfter (c :: before) rest

/-- The text in lower case, by the rules of Unicode that hold in every language. -/
def lower (s : String) : String := String.ofList (lowerAfter [] s.toList)

end SvgPage.Text
