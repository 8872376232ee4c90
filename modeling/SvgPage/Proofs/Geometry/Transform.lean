import SvgPage.Proofs.Css.Value
import SvgPage.Proofs.Geometry.Flip
import SvgPage.Proofs.Numeric.Numeral
import SvgPage.Transform

namespace SvgPage

namespace Css

namespace Lexeme

/-- A word reaches to the first character that ends it. -/
theorem takeWord_eq {ends : Char → Bool} {cs : List Char} (hcs : ∀ c ∈ cs, ends c = false ∧ c ≠ '\\')
    {stop : Char} (hstop : ends stop = true) (tail : List Char) :
    takeWord ends false (cs ++ stop :: tail) = (cs, stop :: tail) := by
  induction cs with
  | nil => simp only [List.nil_append, takeWord, hstop, Bool.not_false, Bool.and_true, if_true]
  | cons c rest ih =>
    obtain ⟨⟨hends, hplain⟩, hrest⟩ := List.forall_mem_cons.1 hcs
    simp only [List.cons_append, takeWord, hends, beq_eq_false_iff_ne.2 hplain, Bool.false_and,
      Bool.false_eq_true, if_false, ih hrest]

section Numerals

variable {name : List Char} {c : Char} {cs : List Char}

theorem isSpace_of_isNumeral (h : isNumeral c = true) : isSpace c = false := by
  have hcode := toNat_of_isNumeral h
  simp only [List.mem_cons, List.not_mem_nil, or_false] at hcode
  simp only [isSpace, decide_eq_false_iff_not]
  omega

theorem beq_of_isNumeral (h : isNumeral c = true) {other : Char} (hother : isNumeral other = false) :
    (c == other) = false := by
  rw [beq_eq_false_iff_ne]
  rintro rfl
  rw [hother] at h
  cases h

theorem isQuote_of_isNumeral (h : isNumeral c = true) : isQuote c = false := by
  simp only [isQuote, beq_of_isNumeral h (by decide : isNumeral '"' = false),
    beq_of_isNumeral h (by decide : isNumeral '\'' = false), Bool.or_false]

theorem isDivider_of_isNumeral (h : isNumeral c = true) : isDivider c = false := by
  simp only [isDivider, beq_of_isNumeral h (by decide : isNumeral '/' = false),
    beq_of_isNumeral h (by decide : isNumeral ',' = false),
    beq_of_isNumeral h (by decide : isNumeral ':' = false), Bool.or_false]

/-- No character of a numeral ends a word, or begins anything but a word. -/
theorem plain_of_isNumeral (h : isNumeral c = true) (inside : Option (List Char)) (rest : List Char) :
    endsWord inside c = false ∧ scan inside c rest = scanWord inside c rest := by
  constructor
  · simp only [endsWord, isSpace_of_isNumeral h, isQuote_of_isNumeral h, isDivider_of_isNumeral h,
      beq_of_isNumeral h (by decide : isNumeral '(' = false),
      beq_of_isNumeral h (by decide : isNumeral ')' = false),
      beq_of_isNumeral h (by decide : isNumeral '*' = false), Bool.false_and, Bool.or_false]
  · simp only [scan, isSpace_of_isNumeral h, isQuote_of_isNumeral h, isDivider_of_isNumeral h,
      beq_of_isNumeral h (by decide : isNumeral '/' = false),
      beq_of_isNumeral h (by decide : isNumeral '(' = false),
      beq_of_isNumeral h (by decide : isNumeral ')' = false),
      beq_of_isNumeral h (by decide : isNumeral '*' = false), Bool.false_and, Bool.or_false,
      Bool.false_eq_true, if_false]

/-- A numeral in the parentheses of a function is a word. -/
theorem scan_numeral (hnumeral : ∀ d ∈ c :: cs, isNumeral d = true) {stop : Char}
    (hstop : stop = ',' ∨ stop = ')') (tail : List Char) :
    scan (some name) c (cs ++ stop :: tail) = (.word (c :: cs), stop :: tail) := by
  obtain ⟨hc, hcs⟩ := List.forall_mem_cons.1 hnumeral
  have hslash {d : Char} (hd : isNumeral d = true) : (d == '\\') = false := beq_of_isNumeral hd (by decide)
  have hplain : ∀ d ∈ cs, endsWord (some name) d = false ∧ d ≠ '\\' := fun d hmem =>
    ⟨(plain_of_isNumeral (hcs d hmem) (some name) []).1, beq_eq_false_iff_ne.1 (hslash (hcs d hmem))⟩
  have hends : endsWord (some name) stop = true := by
    obtain rfl | rfl := hstop <;> rfl
  have hhead : (stop :: tail).head? ≠ some '(' := by
    obtain rfl | rfl := hstop <;> exact fun h => absurd (Option.some.inj h) (by decide)
  have htaken : takeWord (endsWord (some name)) (c == '\\') (cs ++ stop :: tail) = (cs, stop :: tail) := by
    rw [hslash hc]
    exact takeWord_eq hplain hends tail
  rw [(plain_of_isNumeral hc _ _).2, scanWord_of_word htaken hhead]

end Numerals

end Lexeme

/-- A numeral is not a range of code points. -/
theorem wordComponent_of_isNumeral {text : List Char} (h : ∀ c ∈ text, isNumeral c = true) :
    wordComponent text = .word (String.ofList text) := by
  have hrange : isUnicodeRange text = false := by
    cases text with
    | nil => rfl
    | cons first rest =>
      have hfirst := h first List.mem_cons_self
      have hu : (first == 'u' || first == 'U') = false := by
        rw [Lexeme.beq_of_isNumeral hfirst (by decide), Lexeme.beq_of_isNumeral hfirst (by decide), Bool.or_false]
      rw [isUnicodeRange.eq_def]
      split
      next hcons =>
        obtain ⟨rfl, -⟩ := List.cons.inj hcons
        rw [hu, Bool.false_and, Bool.false_and]
      · rfl
  rw [wordComponent, hrange, if_neg Bool.false_ne_true]

/-- The start of a function, up to the first character of a numeral. -/
theorem scan_translate {c : Char} (hc : isNumeral c = true) (cs : List Char) :
    Lexeme.scan none 't' ("ranslate".toList ++ '(' :: c :: cs) = (.opening "translate".toList [], c :: cs) := by
  have hletters : ∀ d ∈ "ranslate".toList, Lexeme.endsWord none d = false ∧ d ≠ '\\' := by
    have hall : "ranslate".toList.all (fun d => !Lexeme.endsWord none d && d != '\\') = true := by decide
    intro d hd
    simpa using List.all_eq_true.1 hall d hd
  have htaken : Lexeme.takeWord (Lexeme.endsWord none) ('t' == '\\') ("ranslate".toList ++ '(' :: c :: cs) =
      ("ranslate".toList, '(' :: c :: cs) :=
    Lexeme.takeWord_eq hletters rfl _
  have hspace : ¬Lexeme.isSpace c = true := by
    rw [Lexeme.isSpace_of_isNumeral hc]
    exact Bool.false_ne_true
  have hname : ('t' :: "ranslate".toList == "url".toList) = false := by decide
  have hplain : ¬('t' :: "ranslate".toList == "url".toList &&
      !((c :: cs).dropWhile Lexeme.isSpace).head?.any Lexeme.isQuote) = true := by
    rw [hname, Bool.false_and]
    exact Bool.false_ne_true
  change Lexeme.scanWord none 't' ("ranslate".toList ++ '(' :: c :: cs) = _
  rw [Lexeme.scanWord_of_opening htaken, Lexeme.scanOpening_of_opening hplain,
    List.takeWhile_cons_of_neg hspace, List.dropWhile_cons_of_neg hspace]
  rfl

/-- Reading inside the parentheses of a function that shifts. -/
def translating (siblings : List Component) : Reading := ⟨[⟨"translate".toList, [], []⟩], siblings, ""⟩

theorem translating_numeral {c : Char} {cs : List Char} (hnumeral : ∀ d ∈ c :: cs, isNumeral d = true)
    {stop : Char} (hstop : stop = ',' ∨ stop = ')') (siblings : List Component) (tail : List Char) :
    (translating siblings).components (c :: (cs ++ stop :: tail)) =
      (translating (.word (String.ofList (c :: cs)) :: siblings)).components (stop :: tail) := by
  have hscan : Lexeme.scan (translating siblings).inside c (cs ++ stop :: tail) = (.word (c :: cs), stop :: tail) :=
    Lexeme.scan_numeral hnumeral hstop tail
  rw [Reading.components_cons, hscan]
  simp only [Reading.take, wordComponent_of_isNumeral hnumeral]
  rfl

theorem translating_comma {c : Char} (hc : isNumeral c = true) (siblings : List Component) (cs : List Char) :
    (translating siblings).components (',' :: ' ' :: c :: cs) =
      (translating (.divider ',' "" " " :: siblings)).components (c :: cs) := by
  have hspace : ¬Lexeme.isSpace c = true := by
    rw [Lexeme.isSpace_of_isNumeral hc]
    exact Bool.false_ne_true
  let divided := translating (.divider ',' "" "" :: siblings)
  have hplace : blankPlace divided.inside divided.siblings (c :: cs) = .afterDivider ',' "" siblings := by
    have hparen : c ≠ ')' := beq_eq_false_iff_ne.1 (Lexeme.beq_of_isNumeral hc (by decide))
    simp [divided, translating, blankPlace, hparen]
  have hcomma : (translating siblings).components (',' :: ' ' :: c :: cs) = divided.components (' ' :: c :: cs) := by
    rw [Reading.components_cons]
    rfl
  rw [hcomma, Reading.components_cons, Lexeme.scan_of_space rfl, List.takeWhile_cons_of_neg hspace,
    List.dropWhile_cons_of_neg hspace, Reading.take_blanks_of_divider hplace]
  rfl

/-- The function that shifts by two numbers. -/
theorem components_translate {x y : List Char} (hx : x ≠ [] ∧ ∀ c ∈ x, isNumeral c = true)
    (hy : y ≠ [] ∧ ∀ c ∈ y, isNumeral c = true) :
    Reading.initial.components ("translate(".toList ++ (x ++ ',' :: ' ' :: (y ++ [')']))) =
      [.function "translate" ""
        [.word (String.ofList x), .divider ',' "" " ", .word (String.ofList y)] "" true] := by
  obtain ⟨first, xs, rfl⟩ := List.exists_cons_of_ne_nil hx.1
  obtain ⟨second, ys, rfl⟩ := List.exists_cons_of_ne_nil hy.1
  have hfirst := hx.2 first List.mem_cons_self
  have hsecond := hy.2 second List.mem_cons_self
  have hopened (rest : List Char) :
      Reading.initial.components ("translate(".toList ++ first :: rest) =
        (translating []).components (first :: rest) := by
    change Reading.initial.components ('t' :: ("ranslate".toList ++ '(' :: first :: rest)) = _
    rw [Reading.components_cons]
    change (Reading.initial.take (Lexeme.scan none 't' _).2 (Lexeme.scan none 't' _).1).components
      (Lexeme.scan none 't' _).2 = _
    rw [scan_translate hfirst]
    rfl
  rw [List.cons_append, hopened, translating_numeral hx.2 (.inl rfl), List.cons_append, translating_comma hsecond,
    translating_numeral hy.2 (.inr rfl), Reading.components_cons]
  exact Reading.components_nil _

end Css

namespace Transform

variable {α : Type} [Scalar α]

/-- The text of the function that shifts by two numbers. -/
def shiftText (x y : α) : String := "translate(" ++ Scalar.toText x ++ ", " ++ Scalar.toText y ++ ")"

theorem parseValue_shiftText {x y : α} (hx : Scalar.Prints x) (hy : Scalar.Prints y) :
    Css.parseValue (shiftText x y) =
      [.function "translate" "" [.word (Scalar.toText x), .divider ',' "" " ", .word (Scalar.toText y)] ""
        true] := by
  have htext : (shiftText x y).toList = "translate(".toList ++
      ((Scalar.toText x).toList ++ ',' :: ' ' :: ((Scalar.toText y).toList ++ [')'])) := by
    simp only [shiftText, String.toList_append, List.append_assoc]
    rfl
  have hparsed := Css.components_translate hx.chars hy.chars
  rw [← htext, String.ofList_toList, String.ofList_toList] at hparsed
  exact hparsed

theorem isComplete_shiftText {x y : α} (hx : Scalar.Prints x) (hy : Scalar.Prints y) :
    Css.isComplete (shiftText x y) = true := by
  rw [Css.isComplete, parseValue_shiftText hx hy]
  rfl

theorem functions_empty : (functions "" : List (Matrix α)) = [] := by
  rw [functions, Css.parseValue_empty, List.filterMap_nil]

theorem read_empty : (read "" : Matrix α) = .identity := by
  rw [read, functions_empty, List.foldl_nil]

/-- The map of a component, if that is a function. -/
def ofComponent? : Css.Component → Option (Matrix α)
  | .function name _ arguments _ _ =>
    some (ofFunction name ((Css.Component.words arguments).filterMap readNumber?))
  | _ => none

/-- Of the components of a value, only functions count. -/
theorem functions_eq (value : String) :
    (functions value : List (Matrix α)) =
      ((Css.parseValue value).filter Css.Component.isFunction).filterMap ofComponent? := by
  rw [functions, List.filterMap_filter]
  congr 1
  funext component
  cases component <;> rfl

/-- The functions of two lists, one behind the other, are those of both, unless something is left open at the
    end of the first one. -/
theorem functions_append {first : String} (h : Css.isComplete first = true) (second : String) :
    (functions (first ++ " " ++ second) : List (Matrix α)) = functions first ++ functions second := by
  rw [functions_eq, Css.functions_parseValue_append h, List.filterMap_append, ← functions_eq, ← functions_eq]

variable [Scalar.Exact α]

theorem foldl_multiply (m : Matrix α) (ms : List (Matrix α)) :
    ms.foldl Matrix.multiply m = m.multiply (ms.foldl Matrix.multiply .identity) := by
  induction ms generalizing m with
  | nil => exact (Matrix.multiply_identity m).symm
  | cons first rest ih =>
    rw [List.foldl_cons, List.foldl_cons, ih, ih (Matrix.identity.multiply first), Matrix.identity_multiply,
      Matrix.multiply_assoc]

/-- So they denote the product of both maps. -/
theorem read_append {first : String} (h : Css.isComplete first = true) (second : String) :
    (read (first ++ " " ++ second) : Matrix α) = (read first).multiply (read second) := by
  rw [read, functions_append h, List.foldl_append, foldl_multiply]
  rfl

theorem read_shiftText {x y : α} (hx : Scalar.Prints x) (hy : Scalar.Prints y) :
    read (shiftText x y) = Matrix.shift x y := by
  have hfunctions : functions (shiftText x y) = [Matrix.shift x y] := by
    rw [functions, parseValue_shiftText hx hy]
    simp [Css.Component.words, hx.readNumber?_eq, hy.readNumber?_eq, ofFunction]
  rw [read, hfunctions, List.foldl_cons, List.foldl_nil, Matrix.identity_multiply]

end Transform

end SvgPage
