import Mathlib.Data.List.TakeWhile
import SvgPage.Css.Value
import SvgPage.Proofs.Css.Lexeme

namespace SvgPage.Css

/-- Whether the end of a component is written, so that it does not go on in what follows a space behind it. -/
def Component.isClosed : Component → Bool
  | word text | unicodeRange text => text.toList.getLast? != some '\\'
  | quoted _ _ closed | comment _ closed | function _ _ _ _ closed => closed
  | space _ | divider _ _ _ => true

/-- Whether nothing in a property value is left open at its end. -/
def isComplete (value : String) : Bool := (parseValue value).all Component.isClosed

/-- Where the reading of components stands: the functions that are open, innermost first, the components
    since the innermost one began, last one first, and the blanks that belong to what comes next. -/
structure Reading where
  functions : List OpenFunction
  siblings : List Component
  blanks : String

namespace Reading

/-- Nothing has been read. -/
def initial : Reading := ⟨[], [], ""⟩

def inside (reading : Reading) : Option (List Char) := reading.functions.head?.map OpenFunction.name

/-- The components where the rest of the text is read. -/
def components (reading : Reading) (cs : List Char) : List Component :=
  readComponents reading.functions reading.siblings reading.blanks cs

def keep (reading : Reading) (component : Component) : Reading :=
  ⟨reading.functions, component :: reading.siblings, ""⟩

/-- What a piece comes to, where `rest` stands behind it. -/
def take (reading : Reading) (rest : List Char) : Lexeme → Reading
  | .blanks text =>
    match blankPlace reading.inside reading.siblings rest with
    | .afterDivider mark before others =>
      ⟨reading.functions, .divider mark before (String.ofList text) :: others, ""⟩
    | .beforeNext => { reading with blanks := String.ofList text }
    | .between => reading.keep (.space (String.ofList text))
  | .quoted quote text closed => reading.keep (.quoted quote (String.ofList text) closed)
  | .comment text closed => reading.keep (.comment (String.ofList text) closed)
  | .mark mark => reading.keep (.divider mark reading.blanks "")
  | .word text => reading.keep (wordComponent text)
  | .address before text after closed => reading.keep (addressComponent before text after closed)
  | .opening name before => ⟨⟨name, before, reading.siblings⟩ :: reading.functions, [], ""⟩
  | .closing =>
    match reading.functions with
    | [] => ⟨[], reading.siblings, ""⟩
    | function :: outer =>
      ⟨outer, .function (String.ofList function.name) (String.ofList function.before)
        reading.siblings.reverse reading.blanks true :: function.siblings, ""⟩

theorem components_nil (reading : Reading) :
    reading.components [] = closeAll reading.functions reading.siblings := by
  rw [components, readComponents]

/-- Reading goes on after each piece. -/
theorem components_cons (reading : Reading) (c : Char) (rest : List Char) :
    reading.components (c :: rest) =
      (reading.take (Lexeme.scan reading.inside c rest).2 (Lexeme.scan reading.inside c rest).1).components
        (Lexeme.scan reading.inside c rest).2 := by
  rw [components, readComponents.eq_def]
  dsimp only
  rw [← inside]
  cases Lexeme.scan reading.inside c rest with
  | mk lexeme after =>
    cases lexeme with
    | blanks text =>
      dsimp only [take]
      cases blankPlace reading.inside reading.siblings after <;> rfl
    | closing =>
      dsimp only [take]
      cases reading.functions <;> rfl
    | _ => rfl

/-- One reading has found other functions than another one before the outermost function that is open, and the
    same ones since. -/
inductive Extends (before : List Component) : Reading → Reading → Prop
  | outside {siblings others : List Component} {blanks blanks' : String}
      (h : siblings.filter Component.isFunction = others.filter Component.isFunction ++ before) :
      Extends before ⟨[], siblings, blanks⟩ ⟨[], others, blanks'⟩
  | inside {function function' : OpenFunction} {outer outer' : List OpenFunction} {siblings : List Component}
      {blanks : String} (hname : function.name = function'.name) (hbefore : function.before = function'.before)
      (h : Extends before ⟨outer, function.siblings, ""⟩ ⟨outer', function'.siblings, ""⟩) :
      Extends before ⟨function :: outer, siblings, blanks⟩ ⟨function' :: outer', siblings, blanks⟩

variable {before : List Component} {reading other : Reading}

theorem Extends.inside_eq (h : Extends before reading other) : reading.inside = other.inside := by
  cases h with
  | outside h => rfl
  | inside hname hbefore h => exact congrArg some hname

theorem Extends.keep (h : Extends before reading other) (component : Component) :
    Extends before (reading.keep component) (other.keep component) := by
  cases h with
  | outside h =>
    apply Extends.outside
    rw [List.filter_cons, List.filter_cons, h]
    split <;> rfl
  | inside hname hbefore h => exact .inside hname hbefore h

theorem blankPlace_afterDivider {inside : Option (List Char)} {siblings others : List Component}
    {rest : List Char} {mark : Char} {first : String}
    (h : blankPlace inside siblings rest = .afterDivider mark first others) :
    ∃ after, siblings = .divider mark first after :: others := by
  rw [blankPlace.eq_def] at h
  split at h
  · split at h
    · cases h
    · split at h
      · cases h
        exact ⟨_, rfl⟩
      · cases h
  · cases h
    exact ⟨_, rfl⟩
  · cases h
  · cases h
  · split at h <;> cases h
  · cases h

theorem take_blanks_of_divider {reading : Reading} {rest : List Char} {mark : Char} {before : String}
    {others : List Component}
    (h : blankPlace reading.inside reading.siblings rest = .afterDivider mark before others) (text : List Char) :
    reading.take rest (.blanks text) =
      ⟨reading.functions, .divider mark before (String.ofList text) :: others, ""⟩ := by
  simp only [take, h]

/-- Outside all functions, blanks do not change the functions that have been found. -/
theorem take_blanks_outside (siblings : List Component) (blanks : String) (rest text : List Char) :
    ∃ others blanks', take ⟨[], siblings, blanks⟩ rest (.blanks text) = ⟨[], others, blanks'⟩ ∧
      others.filter Component.isFunction = siblings.filter Component.isFunction := by
  dsimp only [take]
  cases hplace : blankPlace (inside ⟨[], siblings, blanks⟩) siblings rest with
  | afterDivider mark first others =>
    obtain ⟨after, rfl⟩ := blankPlace_afterDivider hplace
    exact ⟨_, _, rfl, rfl⟩
  | beforeNext => exact ⟨siblings, _, rfl, rfl⟩
  | between => exact ⟨_, _, rfl, rfl⟩

theorem take_blanks_functions (reading : Reading) (rest text : List Char) :
    (reading.take rest (.blanks text)).functions = reading.functions := by
  dsimp only [take]
  split <;> rfl

theorem Extends.take (h : Extends before reading other) (rest : List Char) (lexeme : Lexeme) :
    Extends before (reading.take rest lexeme) (other.take rest lexeme) := by
  cases h with
  | @outside siblings others blanks blanks' h =>
    cases lexeme with
    | blanks text =>
      obtain ⟨siblings', blanks₁, htaken, hsame⟩ := take_blanks_outside siblings blanks rest text
      obtain ⟨others', blanks₂, htaken', hsame'⟩ := take_blanks_outside others blanks' rest text
      rw [htaken, htaken']
      exact .outside (by rw [hsame, hsame', h])
    | mark mark => exact .outside h
    | opening name before => exact .inside rfl rfl (.outside h)
    | closing => exact .outside h
    | _ => exact (Extends.outside h).keep _
  | @inside function function' outer outer' siblings blanks hname hbefore h =>
    have hkept : Extends before ⟨function :: outer, siblings, blanks⟩ ⟨function' :: outer', siblings, blanks⟩ :=
      .inside hname hbefore h
    cases lexeme with
    | blanks text =>
      dsimp only [Reading.take]
      rw [hkept.inside_eq]
      cases blankPlace _ siblings rest with
      | _ => exact .inside hname hbefore h
    | opening name before => exact .inside rfl rfl (.inside hname hbefore h)
    | closing =>
      dsimp only [Reading.take]
      rw [hname, hbefore]
      exact h.keep _
    | _ => exact hkept.keep _

theorem Extends.closeAll (h : Extends before reading other) (more : List Component) :
    (closeAll reading.functions (more ++ reading.siblings)).filter Component.isFunction =
      before.reverse ++ (Css.closeAll other.functions (more ++ other.siblings)).filter Component.isFunction := by
  induction h generalizing more with
  | outside h =>
    simp only [Css.closeAll, List.filter_reverse, List.filter_append, h, List.reverse_append]
    rw [List.append_assoc]
  | @inside function function' outer outer' siblings blanks hname hbefore h ih =>
    simp only [Css.closeAll, hname, hbefore]
    exact ih [_]

/-- What has been found before does not change the functions that are found from then on. -/
theorem Extends.components (h : Extends before reading other) (cs : List Char) :
    (reading.components cs).filter Component.isFunction =
      before.reverse ++ (other.components cs).filter Component.isFunction := by
  induction hlength : cs.length using Nat.strongRecOn generalizing cs reading other with
  | ind length ih =>
    subst hlength
    cases cs with
    | nil =>
      rw [components_nil, components_nil]
      exact h.closeAll []
    | cons c rest =>
      rw [components_cons, components_cons, h.inside_eq]
      exact ih _ (Nat.lt_succ_of_le (Lexeme.length_scan_le ..)) (h.take _ _) _ rfl

/-- Functions are found outside all others as they are in a text of their own. -/
theorem components_outside (siblings : List Component) (blanks : String) (cs : List Char) :
    (components ⟨[], siblings, blanks⟩ cs).filter Component.isFunction =
      (siblings.filter Component.isFunction).reverse ++ (initial.components cs).filter Component.isFunction :=
  (Extends.outside rfl : Extends _ ⟨[], siblings, blanks⟩ initial).components cs

/-- Blanks in front do not change them. -/
theorem components_dropWhile (siblings : List Component) (blanks : String) (cs : List Char) :
    (components ⟨[], siblings, blanks⟩ (cs.dropWhile Lexeme.isSpace)).filter Component.isFunction =
      (components ⟨[], siblings, blanks⟩ cs).filter Component.isFunction := by
  cases cs with
  | nil => rfl
  | cons c rest =>
    by_cases hspace : Lexeme.isSpace c = true
    · obtain ⟨others, blanks', htaken, hsame⟩ :=
        take_blanks_outside siblings blanks (rest.dropWhile Lexeme.isSpace) (c :: rest.takeWhile Lexeme.isSpace)
      rw [List.dropWhile_cons_of_pos hspace, components_cons, Lexeme.scan_of_space hspace, htaken,
        components_outside, components_outside others, hsame]
    · rw [List.dropWhile_cons_of_neg hspace]

theorem components_blanks {text : List Char} (htext : ∀ c ∈ text, Lexeme.isSpace c = true)
    (siblings : List Component) (blanks : String) (tail : List Char) :
    (components ⟨[], siblings, blanks⟩ (text ++ tail)).filter Component.isFunction =
      (siblings.filter Component.isFunction).reverse ++ (initial.components tail).filter Component.isFunction := by
  rw [← components_dropWhile, List.dropWhile_append_of_pos htext, components_dropWhile, components_outside]

/-- At the end nothing is open if all components are closed. -/
theorem closed_of_closeAll {functions : List OpenFunction} {siblings : List Component}
    (h : ∀ component ∈ closeAll functions siblings, component.isClosed = true) :
    functions = [] ∧ ∀ component ∈ siblings, component.isClosed = true := by
  induction functions generalizing siblings with
  | nil => exact ⟨rfl, fun component hmem => h component (List.mem_reverse.2 hmem)⟩
  | cons function outer ih => exact absurd ((ih h).2 _ List.mem_cons_self) Bool.false_ne_true

/-- Where blanks belong is told by the two characters behind them. -/
theorem blankPlace_append (inside : Option (List Char)) (siblings : List Component) (c : Char)
    (others tail : List Char) :
    blankPlace inside siblings (c :: others ++ ' ' :: tail) = blankPlace inside siblings (c :: others) := by
  have hhead : ((others ++ ' ' :: tail).head? != some '*') = (others.head? != some '*') := by
    cases others <;> rfl
  rw [List.cons_append]
  generalize others ++ ' ' :: tail = more at hhead
  by_cases hslash : c = '/'
  · subst hslash
    cases siblings with
    | nil => simp only [blankPlace, hhead]
    | cons first rest =>
      cases first with
      | divider mark before after => rfl
      | _ => simp only [blankPlace, hhead]
  by_cases hmark : c = ')' ∨ c = ',' ∨ c = ':'
  · obtain rfl | rfl | rfl := hmark
    all_goals
      cases siblings with
      | nil => rfl
      | cons first rest => cases first <;> rfl
  · obtain ⟨hparen, hcomma, hcolon⟩ : c ≠ ')' ∧ c ≠ ',' ∧ c ≠ ':' := by simpa only [not_or] using hmark
    cases siblings with
    | nil => simp [blankPlace, *]
    | cons first rest => cases first <;> simp [blankPlace, *]

theorem take_append {rest : List Char} {lexeme : Lexeme} (h : rest ≠ [] ∨ lexeme.isWhole = true)
    (reading : Reading) (tail : List Char) :
    reading.take (rest ++ ' ' :: tail) lexeme = reading.take rest lexeme := by
  cases lexeme with
  | blanks text =>
    obtain ⟨c, others, rfl⟩ := List.exists_cons_of_ne_nil (h.resolve_right Bool.false_ne_true)
    simp only [take, blankPlace_append]
  | _ => rfl

/-- Blanks outside all functions only separate what is on either side of them. -/
theorem components_append_of_blanks {reading : Reading} (hfunctions : reading.functions = []) {text : List Char}
    (htext : ∀ c ∈ text, Lexeme.isSpace c = true) (tail : List Char) :
    (reading.components (text ++ ' ' :: tail)).filter Component.isFunction =
      (reading.components text).filter Component.isFunction ++
        (initial.components tail).filter Component.isFunction := by
  obtain ⟨functions, siblings, blanks⟩ := reading
  obtain rfl : functions = [] := hfunctions
  have hspaces : ∀ c ∈ text ++ [' '], Lexeme.isSpace c = true :=
    List.forall_mem_append.2 ⟨htext, List.forall_mem_singleton.2 rfl⟩
  have hfirst := components_blanks htext siblings blanks []
  have hboth := components_blanks hspaces siblings blanks tail
  rw [List.append_assoc, List.singleton_append] at hboth
  rw [List.append_nil] at hfirst
  rw [hboth, hfirst]
  have hnone : initial.components [] = [] := components_nil initial
  rw [hnone]
  exact congrArg (· ++ _) (List.append_nil _).symm

/-- Of the pieces that a space behind the text could change, only blanks leave nothing open. -/
theorem blank_of_closed {reading : Reading} {c : Char} {rest : List Char}
    (hrest : (Lexeme.scan reading.inside c rest).2 = [])
    (hopen : (Lexeme.scan reading.inside c rest).1.isWhole ≠ true)
    (h : ∀ component ∈ reading.components (c :: rest), component.isClosed = true) :
    reading.functions = [] ∧ ∀ other ∈ c :: rest, Lexeme.isSpace other = true := by
  rw [components_cons, hrest, components_nil] at h
  obtain ⟨hfunctions, hsiblings⟩ := closed_of_closeAll h
  by_cases hspace : Lexeme.isSpace c = true
  · rw [Lexeme.scan_of_space hspace] at hrest hfunctions
    refine ⟨?_, List.forall_mem_cons.2 ⟨hspace, List.dropWhile_eq_nil_iff.1 hrest⟩⟩
    rwa [take_blanks_functions] at hfunctions
  · have hnone := Lexeme.scan_ne_blanks (Bool.eq_false_iff.2 hspace) reading.inside rest
    cases hlexeme : (Lexeme.scan reading.inside c rest).1 with
    | blanks text => exact absurd hlexeme (hnone text)
    | opening name before =>
      rw [hlexeme] at hfunctions
      cases hfunctions
    | mark mark =>
      rw [hlexeme] at hopen
      exact absurd rfl hopen
    | closing =>
      rw [hlexeme] at hopen
      exact absurd rfl hopen
    | word text =>
      rw [hlexeme] at hopen hsiblings
      have hword : (wordComponent text).isClosed = (text.getLast? != some '\\') := by
        rw [wordComponent]
        split <;> simp only [Component.isClosed, String.toList_ofList]
      exact absurd (hword.symm.trans (hsiblings _ List.mem_cons_self)) hopen
    | address before text after closed =>
      rw [hlexeme] at hopen hsiblings
      have haddress : (addressComponent before text after closed).isClosed = closed := by
        simp only [addressComponent]
        split <;> rfl
      exact absurd (haddress.symm.trans (hsiblings _ List.mem_cons_self)) hopen
    | quoted quote text closed =>
      rw [hlexeme] at hopen hsiblings
      exact absurd (hsiblings _ List.mem_cons_self) hopen
    | comment text closed =>
      rw [hlexeme] at hopen hsiblings
      exact absurd (hsiblings _ List.mem_cons_self) hopen

/-- Where nothing is left open at the end of a text, the functions behind a space are those of the text
    behind it. -/
theorem components_append {cs : List Char} {reading : Reading}
    (h : ∀ component ∈ reading.components cs, component.isClosed = true) (tail : List Char) :
    (reading.components (cs ++ ' ' :: tail)).filter Component.isFunction =
      (reading.components cs).filter Component.isFunction ++
        (initial.components tail).filter Component.isFunction := by
  induction hlength : cs.length using Nat.strongRecOn generalizing cs reading with
  | ind length ih =>
    subst hlength
    cases cs with
    | nil =>
      rw [components_nil] at h
      exact components_append_of_blanks (closed_of_closeAll h).1 (List.forall_mem_nil _) tail
    | cons c rest =>
      by_cases hwhole : (Lexeme.scan reading.inside c rest).2 ≠ [] ∨
          (Lexeme.scan reading.inside c rest).1.isWhole = true
      · rw [components_cons] at h
        rw [List.cons_append, components_cons, components_cons, Lexeme.scan_append hwhole, take_append hwhole]
        exact ih _ (Nat.lt_succ_of_le (Lexeme.length_scan_le ..)) h rfl
      · obtain ⟨hrest, hopen⟩ := not_or.1 hwhole
        obtain ⟨hfunctions, hblank⟩ := blank_of_closed (Decidable.not_not.1 hrest) hopen h
        exact components_append_of_blanks hfunctions hblank tail

end Reading

theorem parseValue_empty : parseValue "" = [] := Reading.components_nil .initial

theorem isComplete_empty : isComplete "" = true := by
  rw [isComplete, parseValue_empty, List.all_nil]

/-- The functions in two texts with a space between them are those of both, unless something is left open at
    the end of the first one. -/
theorem functions_parseValue_append {first : String} (h : isComplete first = true) (second : String) :
    (parseValue (first ++ " " ++ second)).filter Component.isFunction =
      (parseValue first).filter Component.isFunction ++ (parseValue second).filter Component.isFunction := by
  have hlist : (first ++ " " ++ second).toList = first.toList ++ ' ' :: second.toList := by
    rw [String.toList_append, String.toList_append, List.append_assoc]
    rfl
  have hclosed : ∀ component ∈ Reading.initial.components first.toList, component.isClosed = true :=
    List.all_eq_true.1 h
  have happended := Reading.components_append hclosed second.toList
  rwa [← hlist] at happended

end SvgPage.Css
