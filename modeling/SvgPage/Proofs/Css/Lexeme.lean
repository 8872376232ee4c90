import SvgPage.Css.Lexeme

namespace SvgPage.Css.Lexeme

/-- Whether a piece stays the same where a space follows it. Blanks go on with the space, and a function has
    only begun. -/
def isWhole : Lexeme → Bool
  | quoted _ _ closed | comment _ closed | address _ _ _ closed => closed
  | word text => text.getLast? != some '\\'
  | mark _ | closing => true
  | blanks _ | opening _ _ => false

section Take

theorem takeUntil_closed {stop : Char} {escaped : Bool} {cs : List Char}
    (h : (takeUntil stop escaped cs).2.2 ≠ []) : (takeUntil stop escaped cs).2.1 = true := by
  induction cs generalizing escaped with
  | nil => exact absurd rfl h
  | cons c rest ih =>
    rw [takeUntil] at h ⊢
    split at h
    next hstop => rw [if_pos hstop]
    next hstop =>
      rw [if_neg hstop]
      exact ih h

theorem takeUntil_append {stop : Char} {escaped : Bool} {cs : List Char}
    (h : (takeUntil stop escaped cs).2.1 = true) (tail : List Char) :
    takeUntil stop escaped (cs ++ tail) =
      ((takeUntil stop escaped cs).1, true, (takeUntil stop escaped cs).2.2 ++ tail) := by
  induction cs generalizing escaped with
  | nil => cases h
  | cons c rest ih =>
    rw [takeUntil] at h ⊢
    rw [List.cons_append, takeUntil]
    split at h
    next hstop => simp only [if_pos hstop]
    next hstop =>
      simp only [if_neg hstop]
      rw [ih h]

theorem takeComment_closed {cs : List Char} (h : (takeComment cs).2.2 ≠ []) : (takeComment cs).2.1 = true := by
  fun_induction takeComment cs with
  | case1 => exact absurd rfl h
  | case2 rest => rfl
  | case3 c rest _ text closed tail htail ih =>
    rw [htail] at ih
    exact ih h

theorem takeComment_append {cs : List Char} (h : (takeComment cs).2.1 = true) (tail : List Char) :
    takeComment (cs ++ tail) = ((takeComment cs).1, true, (takeComment cs).2.2 ++ tail) := by
  fun_induction takeComment cs with
  | case1 => cases h
  | case2 rest => rfl
  | case3 c rest hstop text closed last hlast ih =>
    rw [hlast] at ih
    have hrest : rest ≠ [] := by
      rintro rfl
      cases hlast
      cases h
    obtain ⟨second, others, rfl⟩ := List.exists_cons_of_ne_nil hrest
    rw [List.cons_append, List.cons_append, takeComment, ← List.cons_append, ih h]
    intro more hstar hmore
    obtain ⟨hslash, -⟩ := List.cons.inj hmore
    exact hstop others hstar (congrArg (· :: others) hslash)

/-- A word ends before a space, unless its last character is a backslash. -/
theorem takeWord_append {ends : Char → Bool} (hspace : ends ' ' = true) {escaped : Bool} {before : Char}
    (hescaped : escaped = true → before = '\\') {cs : List Char}
    (h : (takeWord ends escaped cs).2 ≠ [] ∨
      (before :: (takeWord ends escaped cs).1).getLast? ≠ some '\\') (tail : List Char) :
    takeWord ends escaped (cs ++ ' ' :: tail) =
      ((takeWord ends escaped cs).1, (takeWord ends escaped cs).2 ++ ' ' :: tail) := by
  induction cs generalizing escaped before with
  | nil =>
    have hplain : escaped = false := by
      rw [Bool.eq_false_iff]
      intro htaken
      obtain hrest | hlast := h
      · exact hrest rfl
      · exact hlast (congrArg some (hescaped htaken))
    simp only [List.nil_append, hplain, takeWord, hspace, Bool.not_false, Bool.and_true, if_true]
  | cons c rest ih =>
    rw [takeWord] at h ⊢
    rw [List.cons_append, takeWord]
    split at h
    next hends => simp only [if_pos hends, List.cons_append]
    next hends =>
      simp only [if_neg hends]
      have htaken : (c == '\\' && !escaped) = true → c = '\\' := fun hboth =>
        beq_iff_eq.1 (Bool.and_eq_true_iff.1 hboth).1
      rw [ih htaken (by simpa only [List.getLast?_cons_cons] using h)]

end Take

theorem dropWhile_append_of_ne_nil {p : Char → Bool} {cs : List Char} (h : cs.dropWhile p ≠ [])
    (tail : List Char) :
    (cs ++ tail).takeWhile p = cs.takeWhile p ∧ (cs ++ tail).dropWhile p = cs.dropWhile p ++ tail := by
  induction cs with
  | nil => exact absurd rfl h
  | cons c rest ih =>
    rw [List.cons_append, List.takeWhile_cons, List.takeWhile_cons, List.dropWhile_cons, List.dropWhile_cons]
    rw [List.dropWhile_cons] at h
    split
    next hc =>
      rw [if_pos hc] at h
      rw [(ih h).1, (ih h).2]
      exact ⟨rfl, rfl⟩
    · exact ⟨rfl, rfl⟩

theorem scanOpening_of_address {name rest : List Char}
    (h : (name == "url".toList && !(rest.dropWhile isSpace).head?.any isQuote) = true) :
    let content := takeUntil ')' false (rest.dropWhile isSpace)
    let text := Text.dropTail isSpace content.1
    scanOpening name rest =
      (address (rest.takeWhile isSpace) text (content.1.drop text.length) content.2.1, content.2.2) := by
  rw [scanOpening]
  exact if_pos h

theorem scanOpening_of_opening {name rest : List Char}
    (h : ¬(name == "url".toList && !(rest.dropWhile isSpace).head?.any isQuote) = true) :
    scanOpening name rest = (opening name (rest.takeWhile isSpace), rest.dropWhile isSpace) := by
  rw [scanOpening]
  exact if_neg h

theorem scanOpening_append {name rest : List Char}
    (h : (scanOpening name rest).2 ≠ [] ∨ (scanOpening name rest).1.isWhole = true) (tail : List Char) :
    scanOpening name (rest ++ tail) = ((scanOpening name rest).1, (scanOpening name rest).2 ++ tail) := by
  have hinner : rest.dropWhile isSpace ≠ [] := by
    intro hblank
    by_cases hurl : (name == "url".toList && !(rest.dropWhile isSpace).head?.any isQuote) = true
    · rw [scanOpening_of_address hurl, hblank] at h
      exact h.elim (absurd rfl) Bool.false_ne_true
    · rw [scanOpening_of_opening hurl, hblank] at h
      exact h.elim (absurd rfl) Bool.false_ne_true
  obtain ⟨htake, hdrop⟩ := dropWhile_append_of_ne_nil hinner tail
  have hhead : ((rest ++ tail).dropWhile isSpace).head? = (rest.dropWhile isSpace).head? := by
    obtain ⟨c, others, hfirst⟩ := List.exists_cons_of_ne_nil hinner
    rw [hdrop, hfirst]
    rfl
  by_cases hurl : (name == "url".toList && !(rest.dropWhile isSpace).head?.any isQuote) = true
  · have hmore := scanOpening_of_address (hhead ▸ hurl)
    rw [scanOpening_of_address hurl] at h ⊢
    have hclosed : (takeUntil ')' false (rest.dropWhile isSpace)).2.1 = true := h.elim takeUntil_closed id
    rw [hmore, htake, hdrop, takeUntil_append hclosed, hclosed]
  · rw [scanOpening_of_opening hurl, scanOpening_of_opening (hhead ▸ hurl), htake, hdrop]

theorem scanWord_of_opening {inside : Option (List Char)} {c : Char} {rest text after : List Char}
    (h : takeWord (endsWord inside) (c == '\\') rest = (text, '(' :: after)) :
    scanWord inside c rest = scanOpening (c :: text) after := by
  rw [scanWord, h]
  rfl

theorem scanWord_of_word {inside : Option (List Char)} {c : Char} {rest text after : List Char}
    (h : takeWord (endsWord inside) (c == '\\') rest = (text, after)) (hafter : after.head? ≠ some '(') :
    scanWord inside c rest = (word (c :: text), after) := by
  rw [scanWord, h]
  split
  next hpair =>
    obtain ⟨-, rfl⟩ := Prod.mk.inj hpair
    exact absurd rfl hafter
  next hpair =>
    obtain ⟨rfl, rfl⟩ := Prod.mk.inj hpair
    rfl

theorem scanWord_append {inside : Option (List Char)} {c : Char} {rest : List Char}
    (h : (scanWord inside c rest).2 ≠ [] ∨ (scanWord inside c rest).1.isWhole = true) (tail : List Char) :
    scanWord inside c (rest ++ ' ' :: tail) =
      ((scanWord inside c rest).1, (scanWord inside c rest).2 ++ ' ' :: tail) := by
  have hescaped : (c == '\\') = true → c = '\\' := fun h => beq_iff_eq.1 h
  cases htaken : takeWord (endsWord inside) (c == '\\') rest with
  | mk text after =>
    have hmore (hwhole : after ≠ [] ∨ (c :: text).getLast? ≠ some '\\') :
        takeWord (endsWord inside) (c == '\\') (rest ++ ' ' :: tail) = (text, after ++ ' ' :: tail) := by
      have hends : endsWord inside ' ' = true := rfl
      have happended := takeWord_append hends hescaped (by rwa [htaken]) tail
      rwa [htaken] at happended
    by_cases hopening : after.head? = some '('
    · obtain ⟨others, rfl⟩ := List.head?_eq_some_iff.1 hopening
      rw [scanWord_of_opening htaken] at h ⊢
      rw [scanWord_of_opening (hmore (.inl (List.cons_ne_nil _ _)))]
      exact scanOpening_append h _
    · rw [scanWord_of_word htaken hopening] at h ⊢
      refine scanWord_of_word (hmore (h.imp id bne_iff_ne.1)) ?_
      cases after with
      | nil => simp
      | cons first others => exact hopening

theorem scan_of_space {c : Char} (h : isSpace c = true) (inside : Option (List Char)) (rest : List Char) :
    scan inside c rest = (blanks (c :: rest.takeWhile isSpace), rest.dropWhile isSpace) := by
  rw [scan, if_pos h]

/-- Only blanks are read as blanks. -/
theorem scan_ne_blanks {c : Char} (h : isSpace c = false) (inside : Option (List Char)) (rest text : List Char) :
    (scan inside c rest).1 ≠ blanks text := by
  have hopening (name rest : List Char) : (scanOpening name rest).1 ≠ blanks text := by
    rw [scanOpening]
    dsimp only
    split <;> exact Lexeme.noConfusion
  rw [scan, h, if_neg Bool.false_ne_true]
  split
  · exact Lexeme.noConfusion
  split
  · split <;> exact Lexeme.noConfusion
  split
  · exact Lexeme.noConfusion
  split
  · exact Lexeme.noConfusion
  split
  · exact hopening [] rest
  split
  · exact Lexeme.noConfusion
  rw [scanWord]
  split
  · exact hopening _ _
  · exact Lexeme.noConfusion

theorem scan_of_comment {second : Char} (hsecond : second ≠ '/') (inside : Option (List Char))
    (others : List Char) :
    let content := takeComment (second :: others)
    scan inside '/' ('*' :: second :: others) = (comment content.1 content.2.1, content.2.2) := by
  have hstar : ('/' == '/' && ('*' :: second :: others).head? == some '*') = true := rfl
  have hspace : ¬isSpace '/' = true := by decide
  have hquote : ¬isQuote '/' = true := by decide
  rw [scan, if_neg hspace, if_neg hquote, if_pos hstar]
  split
  next hslash => exact absurd (List.cons.inj hslash).1 hsecond
  · rfl

/-- Where a piece does not run to the end of a text, or is whole, it is not changed by a space behind the
    text. -/
theorem scan_append {inside : Option (List Char)} {c : Char} {rest : List Char}
    (h : (scan inside c rest).2 ≠ [] ∨ (scan inside c rest).1.isWhole = true) (tail : List Char) :
    scan inside c (rest ++ ' ' :: tail) =
      ((scan inside c rest).1, (scan inside c rest).2 ++ ' ' :: tail) := by
  by_cases hcomment : c = '/' ∧ rest.head? = some '*'
  · obtain ⟨rfl, hstar⟩ := hcomment
    obtain ⟨others, rfl⟩ := List.head?_eq_some_iff.1 hstar
    cases others with
    | nil => exact h.elim (absurd rfl) (absurd · Bool.false_ne_true)
    | cons second others =>
      by_cases hsecond : second = '/'
      · subst hsecond
        rfl
      · rw [scan_of_comment hsecond] at h ⊢
        have hclosed : (takeComment (second :: others)).2.1 = true := h.elim takeComment_closed id
        have hmore := scan_of_comment hsecond inside (others ++ ' ' :: tail)
        rw [← List.cons_append, takeComment_append hclosed] at hmore
        rw [hclosed]
        exact hmore
  · have hplain {rest : List Char} (hrest : ¬(c = '/' ∧ rest.head? = some '*')) :
        (c == '/' && rest.head? == some '*') = false := by
      rw [← Bool.not_eq_true, Bool.and_eq_true, beq_iff_eq, beq_iff_eq]
      exact hrest
    have hmore : ¬(c = '/' ∧ (rest ++ ' ' :: tail).head? = some '*') := by
      cases rest with
      | nil => exact fun hboth => absurd (Option.some.inj hboth.2) (by decide)
      | cons first others => exact hcomment
    simp only [scan, hplain hcomment, hplain hmore, Bool.false_eq_true, if_false] at h ⊢
    split
    next hspace =>
      rw [if_pos hspace] at h
      obtain ⟨htake, hdrop⟩ := dropWhile_append_of_ne_nil (h.resolve_right Bool.false_ne_true) (' ' :: tail)
      rw [htake, hdrop]
    next hspace =>
      rw [if_neg hspace] at h
      split
      next hquote =>
        rw [if_pos hquote] at h
        have hclosed : (takeUntil c false rest).2.1 = true := h.elim takeUntil_closed id
        simp only [takeUntil_append hclosed, hclosed]
      next hquote =>
        rw [if_neg hquote] at h
        split
        · rfl
        next hcalc =>
          rw [if_neg hcalc] at h
          split
          · rfl
          next hmark =>
            rw [if_neg hmark] at h
            split
            next hopening =>
              rw [if_pos hopening] at h
              exact scanOpening_append h _
            next hopening =>
              rw [if_neg hopening] at h
              split
              · rfl
              next hclosing =>
                rw [if_neg hclosing] at h
                exact scanWord_append h tail

end SvgPage.Css.Lexeme
