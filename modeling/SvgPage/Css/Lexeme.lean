import SvgPage.Text.Blank

namespace SvgPage.Css

/-- The pieces a property value is cut into before functions are matched with their ends. -/
inductive Lexeme where
  | blanks (text : List Char)
  | quoted (quote : Char) (text : List Char) (closed : Bool)
  | comment (text : List Char) (closed : Bool)
  | mark (mark : Char)
  | word (text : List Char)
  /-- The start of a function, with the blanks after its parenthesis. -/
  | opening (name before : List Char)
  /-- A whole `url` whose address is written without quotes, with the blanks around the address. -/
  | address (before text after : List Char) (closed : Bool)
  | closing
deriving Repr

namespace Lexeme

/-- Space and all control characters below it. -/
def isSpace (c : Char) : Bool := c.toNat ≤ 0x20

def isQuote (c : Char) : Bool := c == '"' || c == '\''

def isDivider (c : Char) : Bool := c == '/' || c == ',' || c == ':'

/-- Takes the text up to a character that no odd run of backslashes precedes, and that character. The
    flag tells whether it is there; `escaped` says that an odd run of backslashes has just been
    read. -/
def takeUntil (stop : Char) (escaped : Bool) : List Char → List Char × Bool × List Char
  | [] => ([], false, [])
  | c :: rest =>
    if c == stop && !escaped then
      ([], true, rest)
    else
      let (text, closed, rest) := takeUntil stop (c == '\\' && !escaped) rest
      (c :: text, closed, rest)

theorem length_takeUntil_le (stop : Char) (escaped : Bool) (cs : List Char) :
    (takeUntil stop escaped cs).2.2.length ≤ cs.length := by
  induction cs generalizing escaped with
  | nil => exact Nat.le_refl _
  | cons c rest ih =>
    rw [takeUntil]
    split
    · exact Nat.le_succ _
    · exact Nat.le_succ_of_le (ih _)

/-- Takes the text of a comment and its end. -/
def takeComment : List Char → List Char × Bool × List Char
  | [] => ([], false, [])
  | '*' :: '/' :: rest => ([], true, rest)
  | c :: rest =>
    let (text, closed, rest) := takeComment rest
    (c :: text, closed, rest)

theorem length_takeComment_le (cs : List Char) : (takeComment cs).2.2.length ≤ cs.length := by
  fun_induction takeComment cs with
  | case1 => exact Nat.le_refl _
  | case2 rest => simp only [List.length_cons]; omega
  | case3 c rest _ text closed tail htail ih =>
    rw [htail] at ih
    exact Nat.le_succ_of_le ih

/-- Takes characters up to one that ends a word; a backslash takes the character after it along. The
    first character is taken in any case when `escaped` holds. -/
def takeWord (ends : Char → Bool) (escaped : Bool) : List Char → List Char × List Char
  | [] => ([], [])
  | c :: rest =>
    if ends c && !escaped then
      ([], c :: rest)
    else
      let (text, rest) := takeWord ends (c == '\\' && !escaped) rest
      (c :: text, rest)

theorem length_takeWord_le (ends : Char → Bool) (escaped : Bool) (cs : List Char) :
    (takeWord ends escaped cs).2.length ≤ cs.length := by
  induction cs generalizing escaped with
  | nil => exact Nat.le_refl _
  | cons c rest ih =>
    rw [takeWord]
    split
    · exact Nat.le_refl _
    · exact Nat.le_succ_of_le (ih _)

/-- Whether a character ends a word that stands directly in the function called `inside`, or in none.
    A product sign is a word of its own inside `calc` only. -/
def endsWord (inside : Option (List Char)) (c : Char) : Bool :=
  isSpace c || isQuote c || isDivider c || c == '(' || (c == ')' && inside.isSome) ||
    (c == '*' && inside == some "calc".toList)

/-- The start of a function, after its parenthesis. -/
def scanOpening (name rest : List Char) : Lexeme × List Char :=
  let before := rest.takeWhile isSpace
  let inner := rest.dropWhile isSpace
  if name == "url".toList && !inner.head?.any isQuote then
    let (content, closed, rest) := takeUntil ')' false inner
    let text := Text.dropTail isSpace content
    (address before text (content.drop text.length) closed, rest)
  else
    (opening name before, inner)

theorem length_scanOpening_le (name rest : List Char) :
    (scanOpening name rest).2.length ≤ rest.length := by
  have hinner := (List.dropWhile_suffix isSpace (l := rest)).length_le
  rw [scanOpening]
  dsimp only
  split
  · exact Nat.le_trans (length_takeUntil_le ..) hinner
  · exact hinner

/-- A word, or the start of the function it names. The first character belongs to it whatever it is. -/
def scanWord (inside : Option (List Char)) (c : Char) (rest : List Char) : Lexeme × List Char :=
  match takeWord (endsWord inside) (c == '\\') rest with
  | (text, '(' :: rest) => scanOpening (c :: text) rest
  | (text, rest) => (word (c :: text), rest)

theorem length_scanWord_le (inside : Option (List Char)) (c : Char) (rest : List Char) :
    (scanWord inside c rest).2.length ≤ rest.length := by
  have htaken := length_takeWord_le (endsWord inside) (c == '\\') rest
  rw [scanWord]
  split
  · next text tail h =>
    rw [h, List.length_cons] at htaken
    exact Nat.le_trans (length_scanOpening_le ..) (by omega)
  · next h =>
    rw [h] at htaken
    exact htaken

/-- The piece that starts with `c`, directly in the function called `inside` or in none. A comment may
    end with the slash of its own start. -/
def scan (inside : Option (List Char)) (c : Char) (rest : List Char) : Lexeme × List Char :=
  if isSpace c then
    (blanks (c :: rest.takeWhile isSpace), rest.dropWhile isSpace)
  else if isQuote c then
    let (text, closed, rest) := takeUntil c false rest
    (quoted c text closed, rest)
  else if c == '/' && rest.head? == some '*' then
    match rest.drop 1 with
    | '/' :: rest => (comment [] true, rest)
    | inner =>
      let (text, closed, rest) := takeComment inner
      (comment text closed, rest)
  else if (c == '/' || c == '*') && inside == some "calc".toList then
    (word [c], rest)
  else if isDivider c then
    (mark c, rest)
  else if c == '(' then
    scanOpening [] rest
  else if c == ')' && inside.isSome then
    (closing, rest)
  else
    scanWord inside c rest

theorem length_scan_le (inside : Option (List Char)) (c : Char) (rest : List Char) :
    (scan inside c rest).2.length ≤ rest.length := by
  rw [scan]
  dsimp only
  split
  · exact (List.dropWhile_suffix isSpace (l := rest)).length_le
  split
  · exact length_takeUntil_le ..
  split
  · have hdrop := List.length_drop (i := 1) (l := rest)
    split
    · next tail h =>
      rw [h, List.length_cons] at hdrop
      dsimp only
      omega
    · exact Nat.le_trans (length_takeComment_le _) (by omega)
  split
  · exact Nat.le_refl _
  split
  · exact Nat.le_refl _
  split
  · exact length_scanOpening_le ..
  split
  · exact Nat.le_refl _
  · exact length_scanWord_le ..

end Lexeme

end SvgPage.Css
