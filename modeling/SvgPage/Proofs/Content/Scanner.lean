import SvgPage.Content.TextRun
import SvgPage.Numeric.Double
import SvgPage.Proofs.Numeric.FixedPoint

namespace SvgPage

/-- A token of a content stream. Arrays, dictionaries and hexadecimal strings are left in their parts, with the
    delimiters around them. -/
inductive Token where
  | word (text : String)
  | name (text : String)
  | literal (text : String)
  | delimiter (c : Char)
deriving DecidableEq, Repr

namespace Scanner

/-- What the last characters of a literal string leave open: a backslash stands before the next character, some
    octal digits have been read behind one, or a line has ended with a carriage return, to which a line feed belongs. -/
inductive Pending where
  | nothing
  | backslash
  | octal (digits value : Nat)
  | lineFeed
deriving DecidableEq, Repr

/-- Where a reader stands: between tokens, or in a token with the characters that it has come to so far. In a literal
    string it counts the parentheses that are open. -/
inductive Mode where
  | between
  | comment
  | word (chars : List Char)
  | name (chars : List Char)
  | literal (depth : Nat) (chars : List Char) (pending : Pending)
deriving DecidableEq, Repr

end Scanner

/-- A reader of content streams, with the tokens that have ended. -/
structure Scanner where
  tokens : List Token
  mode : Scanner.Mode
deriving DecidableEq, Repr

namespace Scanner

def blanks : List Char := ['\x00', '\t', '\n', '\x0c', '\r', ' ']

def delimiters : List Char := ['(', ')', '<', '>', '[', ']', '\x7b', '\x7d', '/', '%']

/-- Whether a character is part of a word, wherever it stands in one. -/
def isRegular (c : Char) : Bool := !(blanks ++ delimiters).contains c

def octalDigit? (c : Char) : Option Nat := if '0' ≤ c ∧ c ≤ '7' then some (c.toNat - '0'.toNat) else none

def enter (scanner : Scanner) (mode : Mode) : Scanner := { scanner with mode }

def emit (scanner : Scanner) (token : Token) : Scanner := ⟨scanner.tokens ++ [token], .between⟩

/-- Reads a character that is not part of a token before it. -/
def start (scanner : Scanner) (c : Char) : Scanner :=
  if blanks.contains c then scanner.enter .between
  else if c == '(' then scanner.enter (.literal 0 [] .nothing)
  else if c == '/' then scanner.enter (.name [])
  else if c == '%' then scanner.enter .comment
  else if delimiters.contains c then scanner.emit (.delimiter c)
  else scanner.enter (.word [c])

/-- Reads a character of a literal string with no backslash before it. All ends of lines count as line feeds. -/
def plain (scanner : Scanner) (depth : Nat) (chars : List Char) (c : Char) : Scanner :=
  match c, depth with
  | '(', _ => scanner.enter (.literal (depth + 1) (chars ++ [c]) .nothing)
  | ')', 0 => scanner.emit (.literal (.ofList chars))
  | ')', depth + 1 => scanner.enter (.literal depth (chars ++ [c]) .nothing)
  | '\\', _ => scanner.enter (.literal depth chars .backslash)
  | '\r', _ => scanner.enter (.literal depth (chars ++ ['\n']) .lineFeed)
  | _, _ => scanner.enter (.literal depth (chars ++ [c]) .nothing)

/-- Reads the character behind a backslash. The end of a line is dropped along with the backslash. -/
def escaped (scanner : Scanner) (depth : Nat) (chars : List Char) (c : Char) : Scanner :=
  scanner.enter <| match c with
    | 'n' => .literal depth (chars ++ ['\n']) .nothing
    | 'r' => .literal depth (chars ++ ['\r']) .nothing
    | 't' => .literal depth (chars ++ ['\t']) .nothing
    | 'b' => .literal depth (chars ++ ['\x08']) .nothing
    | 'f' => .literal depth (chars ++ ['\x0c']) .nothing
    | '\n' => .literal depth chars .nothing
    | '\r' => .literal depth chars .lineFeed
    | _ => match octalDigit? c with
      | some value => .literal depth chars (.octal 1 value)
      | none => .literal depth (chars ++ [c]) .nothing

def step (scanner : Scanner) (c : Char) : Scanner :=
  match scanner.mode with
  | .between => scanner.start c
  | .comment => if c == '\n' || c == '\r' then scanner.enter .between else scanner
  | .word chars =>
    if isRegular c then scanner.enter (.word (chars ++ [c]))
    else (scanner.emit (.word (.ofList chars))).start c
  | .name chars =>
    if isRegular c then scanner.enter (.name (chars ++ [c]))
    else (scanner.emit (.name (.ofList chars))).start c
  | .literal depth chars .nothing => scanner.plain depth chars c
  | .literal depth chars .backslash => scanner.escaped depth chars c
  | .literal depth chars (.octal digits value) =>
    match (octalDigit? c).filter fun _ => digits < 3 with
    | some digit => scanner.enter (.literal depth chars (.octal (digits + 1) (8 * value + digit)))
    | none => scanner.plain depth (chars ++ [.ofNat (value % 256)]) c
  | .literal depth chars .lineFeed =>
    if c == '\n' then scanner.enter (.literal depth chars .nothing) else scanner.plain depth chars c

def read (scanner : Scanner) (text : List Char) : Scanner := text.foldl step scanner

theorem read_append (scanner : Scanner) (first second : List Char) :
    scanner.read (first ++ second) = (scanner.read first).read second := List.foldl_append

section Tokens

variable (scanner : Scanner) (c : Char)

theorem tokens_prefix_start : scanner.tokens <+: (scanner.start c).tokens := by
  unfold start
  split_ifs
  all_goals first | exact List.prefix_refl _ | exact List.prefix_append _ _

theorem tokens_prefix_plain (depth : Nat) (chars : List Char) :
    scanner.tokens <+: (scanner.plain depth chars c).tokens := by
  unfold plain
  split
  all_goals first | exact List.prefix_refl _ | exact List.prefix_append _ _

/-- Tokens that have ended stay as they are. -/
theorem tokens_prefix_step : scanner.tokens <+: (scanner.step c).tokens := by
  have hends (token : Token) : scanner.tokens <+: ((scanner.emit token).start c).tokens :=
    (List.prefix_append scanner.tokens [token]).trans ((scanner.emit token).tokens_prefix_start c)
  unfold step
  split
  case h_1 => exact scanner.tokens_prefix_start c
  case h_2 => split <;> exact List.prefix_refl _
  case h_3 | h_4 =>
    split
    · exact List.prefix_refl _
    · exact hends _
  case h_5 => exact scanner.tokens_prefix_plain c _ _
  case h_6 => exact List.prefix_refl _
  case h_7 | h_8 =>
    split
    · exact List.prefix_refl _
    · exact scanner.tokens_prefix_plain c _ _

theorem tokens_prefix_read (text : List Char) : scanner.tokens <+: (scanner.read text).tokens := by
  induction text generalizing scanner with
  | nil => exact List.prefix_refl _
  | cons c rest ih => exact (scanner.tokens_prefix_step c).trans (ih _)

end Tokens

section Literal

variable (tokens : List Token) (depth : Nat) (chars : List Char)

/-- A character of a text is read back from its escape, whatever parentheses are open. -/
theorem read_escapeChar (c : Char) :
    read ⟨tokens, .literal depth chars .nothing⟩ (Literal.escapeChar c) =
      ⟨tokens, .literal depth (chars ++ [c]) .nothing⟩ := by
  unfold Literal.escapeChar
  split_ifs with hdelimiter hreturn hfeed
  · simp only [Bool.or_eq_true, beq_iff_eq] at hdelimiter
    obtain (rfl | rfl) | rfl := hdelimiter <;> rfl
  · rw [beq_iff_eq.1 hreturn]
    rfl
  · rw [beq_iff_eq.1 hfeed]
    rfl
  · simp only [Bool.or_eq_true, beq_iff_eq, not_or] at hdelimiter hreturn hfeed
    obtain ⟨⟨hbackslash, hopen⟩, hclose⟩ := hdelimiter
    -- Any other character stands for itself.
    change plain _ depth chars c = _
    unfold plain
    split
    all_goals first | contradiction | rfl

theorem read_escape (text : List Char) :
    read ⟨tokens, .literal depth chars .nothing⟩ (Literal.escape text) =
      ⟨tokens, .literal depth (chars ++ text) .nothing⟩ := by
  induction text generalizing chars with
  | nil =>
    rw [List.append_nil]
    rfl
  | cons c rest ih =>
    have hescape : Literal.escape (c :: rest) = Literal.escapeChar c ++ Literal.escape rest := List.flatMap_cons
    rw [hescape, read_append, read_escapeChar, ih, List.append_assoc]
    rfl

end Literal

section Words

theorem isRegular_iff {c : Char} : isRegular c = true ↔ c ∉ blanks ++ delimiters := by
  rw [isRegular, Bool.not_eq_true', ← Bool.not_eq_true, List.contains_iff_mem]

theorem isRegular_of_isDigit {c : Char} (h : c.isDigit = true) : isRegular c = true := by
  have hnone : (blanks ++ delimiters).all (!·.isDigit) = true := rfl
  refine isRegular_iff.2 fun hmem => ?_
  have hdigit := List.all_eq_true.1 hnone c hmem
  rw [h] at hdigit
  cases hdigit

theorem start_of_isRegular {c : Char} (h : isRegular c = true) (scanner : Scanner) :
    scanner.start c = scanner.enter (.word [c]) := by
  have hnot := isRegular_iff.1 h
  have hother {other : Char} (hspecial : other ∈ blanks ++ delimiters) : ¬(c == other) = true :=
    fun heq => hnot (beq_iff_eq.1 heq ▸ hspecial)
  have hblank : ¬blanks.contains c = true := fun hmem => hnot (List.mem_append_left _ (List.contains_iff_mem.1 hmem))
  have hdelimiter : ¬delimiters.contains c = true :=
    fun hmem => hnot (List.mem_append_right _ (List.contains_iff_mem.1 hmem))
  rw [start, if_neg hblank, if_neg (hother (by decide)), if_neg (hother (by decide)), if_neg (hother (by decide)),
    if_neg hdelimiter]

/-- Whether characters are read as one word. -/
structure IsWord (chars : List Char) : Prop where
  ne_nil : chars ≠ []
  regular : ∀ c ∈ chars, isRegular c = true

theorem isWord_of_all {text : String} (hne : text ≠ "") (h : text.toList.all isRegular = true) : IsWord text.toList :=
  ⟨mt String.toList_eq_nil_iff.1 hne, List.all_eq_true.1 h⟩

/-- A word lasts as long as regular characters follow. -/
theorem read_regular (tokens : List Token) (chars : List Char) {rest : List Char}
    (h : ∀ c ∈ rest, isRegular c = true) : read ⟨tokens, .word chars⟩ rest = ⟨tokens, .word (chars ++ rest)⟩ := by
  induction rest generalizing chars with
  | nil =>
    rw [List.append_nil]
    rfl
  | cons c rest ih =>
    obtain ⟨hc, hrest⟩ := List.forall_mem_cons.1 h
    have hstep : step ⟨tokens, .word chars⟩ c = ⟨tokens, .word (chars ++ [c])⟩ := if_pos hc
    change read (step ⟨tokens, .word chars⟩ c) rest = _
    rw [hstep, ih _ hrest, List.append_assoc]
    rfl

theorem IsWord.read_eq {chars : List Char} (h : IsWord chars) (tokens : List Token) :
    read ⟨tokens, .between⟩ chars = ⟨tokens, .word chars⟩ := by
  obtain ⟨c, rest, rfl⟩ := List.exists_cons_of_ne_nil h.ne_nil
  obtain ⟨hc, hrest⟩ := List.forall_mem_cons.1 h.regular
  change read (start ⟨tokens, .between⟩ c) rest = _
  rw [start_of_isRegular hc]
  exact read_regular tokens [c] hrest

theorem IsWord.append {chars sign : List Char} (h : IsWord chars) (hsign : ∀ c ∈ sign, isRegular c = true) :
    IsWord (sign ++ chars) :=
  ⟨List.append_ne_nil_of_right_ne_nil _ h.ne_nil, List.forall_mem_append.2 ⟨hsign, h.regular⟩⟩

end Words

section Numbers

theorem isWord_of_isFixedPoint {text : String} (h : IsFixedPoint text) : IsWord text.toList := by
  obtain ⟨sign, whole, fraction, htext, -, -, -, -⟩ := id h
  refine ⟨by rw [htext]; exact List.append_ne_nil_of_right_ne_nil _ (List.cons_ne_nil _ _), fun c hmem => ?_⟩
  obtain hdigit | hmark := Bool.or_eq_true_iff.1 (h.chars c hmem)
  · exact isRegular_of_isDigit hdigit
  · have hall : ['.', '-'].all isRegular = true := rfl
    exact List.all_eq_true.1 hall c (List.contains_iff_mem.1 hmark)

theorem isWord_toDigits (n : Nat) : IsWord (Nat.toDigits 10 n) :=
  ⟨Nat.toDigits_ne_nil, fun _ hmem => isRegular_of_isDigit (Nat.isDigit_of_mem_toDigits (by decide) (by decide) hmem)⟩

theorem isWord_layout (n : Nat) (e : Int) : IsWord (Shortest.layout n e).toList := by
  obtain ⟨hne, hdigits⟩ := isWord_toDigits n
  have hzeros {k : Nat} : ∀ c ∈ List.replicate k '0', isRegular c = true :=
    fun c hmem => List.eq_of_mem_replicate hmem ▸ rfl
  simp only [Shortest.layout]
  generalize Nat.toDigits 10 n = digits at hne hdigits
  have htake {k : Nat} : ∀ c ∈ digits.take k, isRegular c = true := fun c hmem => hdigits c (List.mem_of_mem_take hmem)
  have hdrop {k : Nat} : ∀ c ∈ digits.drop k, isRegular c = true := fun c hmem => hdigits c (List.mem_of_mem_drop hmem)
  split
  · rw [String.toList_ofList]
    exact ⟨List.append_ne_nil_of_left_ne_nil hne _, List.forall_mem_append.2 ⟨hdigits, hzeros⟩⟩
  split
  · rw [String.toList_ofList]
    have hpoint : IsWord ('.' :: digits.drop (e + digits.length).toNat) :=
      ⟨List.cons_ne_nil _ _, List.forall_mem_cons.2 ⟨rfl, hdrop⟩⟩
    exact hpoint.append htake
  split
  · rw [String.toList_ofList]
    have hword : IsWord digits := ⟨hne, hdigits⟩
    exact hword.append (List.forall_mem_cons.2 ⟨rfl, List.forall_mem_cons.2 ⟨rfl, hzeros⟩⟩)
  · rw [String.toList_ofList]
    have hsign : isRegular (if e + digits.length - 1 < 0 then '-' else '+') = true := by split <;> rfl
    have hpower : IsWord ('e' :: (if e + digits.length - 1 < 0 then '-' else '+') ::
        Nat.toDigits 10 (e + digits.length - 1).natAbs) :=
      ⟨List.cons_ne_nil _ _, List.forall_mem_cons.2 ⟨rfl, List.forall_mem_cons.2 ⟨hsign, (isWord_toDigits _).regular⟩⟩⟩
    refine hpower.append (List.forall_mem_append.2 ⟨htake, ?_⟩)
    split
    next next rest =>
      exact List.forall_mem_cons.2 ⟨rfl, (List.forall_mem_cons.1 hdigits).2⟩
    · exact List.forall_mem_nil _

theorem isWord_shortest (x : Float) : IsWord (Shortest.text x).toList := by
  rw [Shortest.text]
  split
  · exact isWord_of_all (by decide) rfl
  · split <;> exact isWord_of_all (by decide) rfl
  · split
    · exact isWord_of_all (by decide) rfl
    · rw [String.toList_append]
      refine (isWord_layout _ _).append ?_
      split
      · exact List.forall_mem_singleton.2 rfl
      · exact List.forall_mem_nil _

/-- Whatever a number is, its text is one word. -/
theorem isWord_text (x : Float) : IsWord (Fixed.text x).toList := by
  cases hbits : Binary.ofFloat x with
  | notANumber | infinite negative =>
    rw [Fixed.text, hbits]
    exact isWord_shortest x
  | finite negative mantissa exponent =>
    rw [Fixed.text_eq hbits]
    split
    · exact isWord_shortest x
    · refine isWord_of_isFixedPoint ?_
      split
      · exact Fixed.isFixedPoint_layout ['-'] (.inr rfl) _
      · exact Fixed.isFixedPoint_layout [] (.inl rfl) _

end Numbers

variable (tokens : List Token)

/-- A text is one token, which ends at the closing parenthesis. -/
theorem read_literal (text : String) :
    read ⟨tokens, .between⟩ (Literal.write text).toList = ⟨tokens ++ [.literal text], .between⟩ := by
  rw [Literal.write, String.toList_ofList, List.cons_append]
  change read ⟨tokens, .literal 0 [] .nothing⟩ (Literal.escape text.toList ++ [')']) = _
  rw [read_append, read_escape, List.nil_append]
  change Scanner.mk (tokens ++ [.literal (.ofList text.toList)]) .between = _
  rw [String.ofList_toList]

example : read ⟨[], .between⟩ "(a(b)\\051\\n) Tj\n".toList = ⟨[.literal "a(b))\n", .word "Tj"], .between⟩ := by rfl

/-- It does not end before. -/
theorem tokens_of_prefix {text : String} {part : List Char} (hpart : part <+: (Literal.write text).toList)
    (hne : part ≠ (Literal.write text).toList) : (read ⟨tokens, .between⟩ part).tokens = tokens := by
  have hopen : (read ⟨tokens, .between⟩ ('(' :: Literal.escape text.toList)).tokens = tokens :=
    congrArg Scanner.tokens (read_escape tokens 0 [] text.toList)
  rw [Literal.write, String.toList_ofList] at hpart hne
  obtain heq | ⟨rest, hrest⟩ := List.prefix_concat_iff.1 hpart
  · exact absurd heq hne
  · have hlast := tokens_prefix_read (read ⟨tokens, .between⟩ part) rest
    rw [← read_append, hrest, hopen] at hlast
    exact hlast.eq_of_length_le (tokens_prefix_read ⟨tokens, .between⟩ part).length_le

/-- A number ends where a character follows that is not part of a word. -/
theorem read_number (x : Float) {c : Char} (hc : isRegular c = false) (rest : List Char) :
    read ⟨tokens, .between⟩ ((Fixed.text x).toList ++ c :: rest) =
      read ⟨tokens ++ [.word (Fixed.text x)], .between⟩ (c :: rest) := by
  have hstep : step ⟨tokens, .word (Fixed.text x).toList⟩ c =
      start ⟨tokens ++ [.word (.ofList (Fixed.text x).toList)], .between⟩ c := if_neg (Bool.not_eq_true _ ▸ hc)
  rw [read_append, (isWord_text x).read_eq]
  change read (step ⟨tokens, .word (Fixed.text x).toList⟩ c) rest = _
  rw [hstep, String.ofList_toList]
  rfl

theorem read_font (size : Float) :
    read ⟨tokens, .between⟩ (Operator.font size).write.toList =
      ⟨tokens ++ [.name "F1", .word (Fixed.text size), .word "Tf"], .between⟩ := by
  rw [Operator.write, writeNumbers, List.map_singleton, String.intercalate_singleton, String.toList_append,
    String.toList_append, List.append_assoc, read_append]
  change read ⟨tokens ++ [.name "F1"], .between⟩ ((Fixed.text size).toList ++ ' ' :: ['T', 'f', '\n']) = _
  rw [read_number _ _ rfl]
  change Scanner.mk (tokens ++ [.name "F1"] ++ [.word (Fixed.text size)] ++ [.word "Tf"]) .between = _
  simp only [List.append_assoc, List.cons_append, List.nil_append]

theorem read_textPosition (x y : Float) :
    read ⟨tokens, .between⟩ (Operator.textPosition x y).write.toList =
      ⟨tokens ++ [.word (Fixed.text x), .word (Fixed.text y), .word "Td"], .between⟩ := by
  rw [Operator.write, writeNumbers, List.map_cons, List.map_singleton, String.intercalate_cons_cons,
    String.intercalate_singleton]
  simp only [String.toList_append, List.append_assoc]
  change read ⟨tokens, .between⟩ ((Fixed.text x).toList ++ ' ' :: ((Fixed.text y).toList ++ [' ', 'T', 'd', '\n'])) = _
  rw [read_number _ _ rfl]
  change read ⟨tokens ++ [.word (Fixed.text x)], .between⟩ ((Fixed.text y).toList ++ ' ' :: ['T', 'd', '\n']) = _
  rw [read_number _ _ rfl]
  change Scanner.mk (tokens ++ [.word (Fixed.text x)] ++ [.word (Fixed.text y)] ++ [.word "Td"]) .between = _
  simp only [List.append_assoc, List.cons_append, List.nil_append]

theorem read_showText (text : String) :
    read ⟨tokens, .between⟩ (Operator.showText text).write.toList =
      ⟨tokens ++ [.literal text, .word "Tj"], .between⟩ := by
  rw [Operator.write, String.toList_append, read_append, read_literal]
  change Scanner.mk (tokens ++ [.literal text] ++ [.word "Tj"]) .between = _
  rw [List.append_assoc]
  rfl

/-- A reader that stands between tokens comes to no token before it has read the whole string that a run shows, with
    its closing parenthesis. Then it has come to the text of the run. So it finds in the run the operators that show
    it, whatever the text is, and stands between tokens again. -/
theorem read_run (run : TextRun Float) :
    (∀ part, part <+: (Literal.write run.text).toList → part ≠ (Literal.write run.text).toList →
      (read ⟨tokens, .between⟩ part).tokens = tokens) ∧
    read ⟨tokens, .between⟩ (Literal.write run.text).toList = ⟨tokens ++ [.literal run.text], .between⟩ ∧
    read ⟨tokens, .between⟩ (Operator.writeAll run.operators).toList =
      ⟨tokens ++ [.word "BT", .name "F1", .word (Fixed.text run.font.size), .word "Tf",
        .word (Fixed.text (run.x - run.shift)), .word (Fixed.text run.y), .word "Td", .literal run.text, .word "Tj",
        .word "ET"], .between⟩ := by
  refine ⟨fun part => tokens_of_prefix tokens, read_literal tokens run.text, ?_⟩
  have hbegin (tokens : List Token) :
      read ⟨tokens, .between⟩ (Operator.write .beginText).toList = ⟨tokens ++ [.word "BT"], .between⟩ := rfl
  have hend (tokens : List Token) :
      read ⟨tokens, .between⟩ (Operator.write .endText).toList = ⟨tokens ++ [.word "ET"], .between⟩ := rfl
  simp only [TextRun.operators, Operator.writeAll, List.map_cons, List.map_nil, String.join_cons, String.toList_append,
    read_append]
  rw [hbegin, read_font, read_textPosition, read_showText, hend]
  simp only [List.append_assoc, List.cons_append, List.nil_append]
  rfl

end Scanner

end SvgPage
