import Mathlib.Data.List.Basic
import SvgPage.Path.Command
import SvgPage.Proofs.Exact
import SvgPage.Text.Blank

namespace SvgPage

/-- A number as it stands in path data: a sign, digits, and a point with digits after it. Not all of these need be
    there, but there is a digit. -/
structure WrittenNumber where
  /-- `true` stands for minus. -/
  sign : Option Bool
  whole : List (Fin 10)
  fraction : Option (List (Fin 10))
  has_digit : whole ≠ [] ∨ ∃ digits ∈ fraction, digits ≠ []

namespace WrittenNumber

def digit (d : Fin 10) : Char := Nat.digitChar d

def signText : Option Bool → List Char
  | none => []
  | some true => ['-']
  | some false => ['+']

def fractionText : Option (List (Fin 10)) → List Char
  | none => []
  | some digits => '.' :: digits.map digit

def text (number : WrittenNumber) : List Char :=
  signText number.sign ++ (number.whole.map digit ++ fractionText number.fraction)

def valueOf (digits : List (Fin 10)) : Nat := digits.foldl (fun value d => 10 * value + d.val) 0

/-- The number that is written. -/
def decimal (number : WrittenNumber) : Decimal where
  negative := number.sign == some true
  digits := valueOf (number.whole ++ number.fraction.getD [])
  exponent := -(number.fraction.getD []).length

/-- Whether a text does not go on with the number that it follows. -/
def Ends (number : WrittenNumber) (rest : List Char) : Prop :=
  ∀ c ∈ rest.head?, c.isDigit = false ∧ (number.fraction = none → c ≠ '.')

theorem isDigit_digit (d : Fin 10) : (digit d).isDigit = true := by
  decide +revert

theorem digit_ne_sign (d : Fin 10) : digit d ≠ '-' ∧ digit d ≠ '+' := by
  decide +revert

theorem isDigit_of_mem_map {digits : List (Fin 10)} : ∀ c ∈ digits.map digit, c.isDigit = true := by
  intro c hmem
  obtain ⟨d, -, rfl⟩ := List.mem_map.1 hmem
  exact isDigit_digit d

theorem ofDigits_map (digits : List (Fin 10)) : Decimal.ofDigits (digits.map digit) = valueOf digits := by
  have hvalue (d : Fin 10) : (digit d).toNat - '0'.toNat = d.val := by
    decide +revert
  rw [Decimal.ofDigits, valueOf, List.foldl_map]
  simp only [hvalue]

section Scan

variable {rest : List Char}

theorem takeWhile_digits (digits : List (Fin 10)) (h : ∀ c ∈ rest.head?, c.isDigit = false) :
    (digits.map digit ++ rest).takeWhile Char.isDigit = digits.map digit := by
  rw [List.takeWhile_append_of_pos isDigit_of_mem_map]
  cases rest with
  | nil => exact List.append_nil _
  | cons c rest => rw [List.takeWhile_cons_of_neg (by rw [h c rfl]; exact Bool.false_ne_true), List.append_nil]

theorem dropWhile_digits (digits : List (Fin 10)) (h : ∀ c ∈ rest.head?, c.isDigit = false) :
    (digits.map digit ++ rest).dropWhile Char.isDigit = rest := by
  rw [List.dropWhile_append_of_pos isDigit_of_mem_map]
  cases rest with
  | nil => rfl
  | cons c rest => rw [List.dropWhile_cons_of_neg (by rw [h c rfl]; exact Bool.false_ne_true)]

theorem scanMagnitude_text (number : WrittenNumber) (h : number.Ends rest) :
    Decimal.scanMagnitude (number.whole.map digit ++ (fractionText number.fraction ++ rest)) =
      some ((number.whole ++ number.fraction.getD []).map digit, (number.fraction.getD []).length, rest) := by
  obtain ⟨sign, whole, fraction, hdigit⟩ := number
  have hend : ∀ c ∈ rest.head?, c.isDigit = false := fun c hc => (h c hc).1
  cases fraction with
  | none =>
    have hwhole : whole ≠ [] := hdigit.resolve_right fun ⟨_, hnone, _⟩ => by cases hnone
    have hsome : ((whole.map digit).isEmpty) = false := by
      rw [List.isEmpty_map]
      exact List.isEmpty_eq_false_iff.2 hwhole
    rw [Decimal.scanMagnitude, fractionText, List.nil_append, takeWhile_digits _ hend, dropWhile_digits _ hend]
    dsimp only
    split
    next after => exact absurd rfl ((h '.' rfl).2 rfl)
    · rw [hsome, if_neg Bool.false_ne_true, Option.getD_none, List.append_nil]
      rfl
  | some fraction =>
    have hstart : ∀ c ∈ (fractionText (some fraction) ++ rest).head?, c.isDigit = false := by
      rintro c ⟨⟩
      rfl
    have hsome : ((whole.map digit).isEmpty && (fraction.map digit).isEmpty) = false := by
      rw [List.isEmpty_map, List.isEmpty_map, Bool.and_eq_false_iff, List.isEmpty_eq_false_iff,
        List.isEmpty_eq_false_iff]
      exact hdigit.imp_right fun ⟨_, hsome, hdigits⟩ => by cases hsome; exact hdigits
    rw [Decimal.scanMagnitude, takeWhile_digits _ hstart, dropWhile_digits _ hstart, fractionText, List.cons_append]
    dsimp only
    split
    next after hafter =>
      cases hafter
      rw [takeWhile_digits _ hend, dropWhile_digits _ hend, hsome, if_neg Bool.false_ne_true, Option.getD_some,
        List.map_append, List.length_map]
    next hpoint => exact absurd rfl (hpoint _)

theorem scanSign_of_ne {c : Char} (hminus : c ≠ '-') (hplus : c ≠ '+') (rest : List Char) :
    Decimal.scanSign (c :: rest) = (false, c :: rest) := by
  rw [Decimal.scanSign]
  · exact fun _ h => hminus (List.cons.inj h).1
  · exact fun _ h => hplus (List.cons.inj h).1

theorem scanSign_text (number : WrittenNumber) (rest : List Char) :
    Decimal.scanSign (number.text ++ rest) =
      (number.sign == some true, number.whole.map digit ++ (fractionText number.fraction ++ rest)) := by
  obtain ⟨sign, whole, fraction, hdigit⟩ := number
  rw [text, List.append_assoc, List.append_assoc]
  cases sign with
  | some minus => cases minus <;> rfl
  | none =>
    cases whole with
    | cons d whole => exact scanSign_of_ne (digit_ne_sign d).1 (digit_ne_sign d).2 _
    | nil =>
      cases fraction with
      | some fraction => rfl
      | none => exact absurd (hdigit.resolve_left fun h => h rfl) fun ⟨_, hnone, _⟩ => by cases hnone

/-- A number is read to its end. -/
theorem scanFixed_text (number : WrittenNumber) (h : number.Ends rest) :
    Decimal.scanFixed (number.text ++ rest) = some (number.decimal, rest) := by
  rw [Decimal.scanFixed, scanSign_text]
  dsimp only
  rw [scanMagnitude_text number h, Option.map_some, ofDigits_map]
  rfl

end Scan

end WrittenNumber

/-- A number of path data and what separates it from what comes next. -/
structure WrittenParameter where
  number : WrittenNumber
  gap : List Char
  gap_separates : ∀ c ∈ gap, Text.isListSeparator c = true

namespace WrittenParameter

def text (parameter : WrittenParameter) : List Char := parameter.number.text ++ parameter.gap

/-- Whether a number can be told apart from the one after it. Without separators this takes a sign, or a second
    point. -/
def Precedes (parameter next : WrittenParameter) : Prop :=
  parameter.gap ≠ [] ∨ next.number.sign ≠ none ∨ (next.number.whole = [] ∧ parameter.number.fraction ≠ none)

end WrittenParameter

namespace CommandKind

/-- The letter of a command, which is small if coordinates start from the current point. -/
def written (kind : CommandKind) (relative : Bool) : Char := if relative then kind.letter.toLower else kind.letter

theorem ofLetter?_written (kind : CommandKind) (relative : Bool) : ofLetter? (kind.written relative) = some kind := by
  cases kind <;> cases relative <;> decide

theorem written_bne (kind : CommandKind) (relative : Bool) : (kind.written relative != kind.letter) = relative := by
  cases kind <;> cases relative <;> decide

end CommandKind

/-- A command as it stands in path data. -/
structure WrittenCommand where
  kind : CommandKind
  relative : Bool
  /-- What separates the letter from the numbers. -/
  lead : List Char
  lead_separates : ∀ c ∈ lead, Text.isListSeparator c = true
  parameters : List WrittenParameter
  told_apart : parameters.IsChain WrittenParameter.Precedes

namespace WrittenCommand

/-- What comes after the letter. -/
def run (command : WrittenCommand) : List Char := command.lead ++ command.parameters.flatMap WrittenParameter.text

def text (command : WrittenCommand) : List Char := command.kind.written command.relative :: command.run

/-- The command that is written. -/
def command {α : Type} [Scalar α] (command : WrittenCommand) : PathCommand α where
  kind := command.kind
  relative := command.relative
  parameters := command.parameters.map (·.number.decimal.value)

end WrittenCommand

namespace PathCommand

section Letters

theorem toNat_of_isLetter {c : Char} (h : isLetter c = true) : 65 ≤ c.toNat ∧ c.toNat ≤ 122 := by
  obtain ⟨kind, hkind⟩ := Option.isSome_iff_exists.1 h
  have hletter : kind.letter = c.toUpper := by
    have hfound := List.find?_some hkind
    exact beq_iff_eq.1 hfound
  unfold Char.toUpper at hletter
  split at hletter
  next hlower =>
    have hfirst : 97 ≤ c.toNat := hlower.1
    exact ⟨by omega, hlower.2⟩
  · rw [← hletter]
    cases kind <;> decide

theorem isLetter_of_separates {c : Char} (h : Text.isListSeparator c = true) : isLetter c = false := by
  rw [Bool.eq_false_iff]
  intro hletter
  have hrange := toNat_of_isLetter hletter
  simp only [Text.isListSeparator, Text.isBlank, Bool.or_eq_true, Bool.and_eq_true, decide_eq_true_eq, beq_iff_eq] at h
  obtain h | rfl := h
  · omega
  · exact absurd hrange (by decide)

theorem isLetter_digit (d : Fin 10) : isLetter (WrittenNumber.digit d) = false := by
  decide +revert

theorem isLetter_of_mem_text {number : WrittenNumber} : ∀ c ∈ number.text, isLetter c = false := by
  obtain ⟨sign, whole, fraction, hdigit⟩ := number
  have hdigits (digits : List (Fin 10)) : ∀ c ∈ digits.map WrittenNumber.digit, isLetter c = false := by
    intro c hmem
    obtain ⟨d, -, rfl⟩ := List.mem_map.1 hmem
    exact isLetter_digit d
  have hsign : ∀ c ∈ WrittenNumber.signText sign, isLetter c = false := by
    match sign with
    | none => exact List.forall_mem_nil _
    | some true | some false => exact List.forall_mem_singleton.2 (by decide)
  have hfraction : ∀ c ∈ WrittenNumber.fractionText fraction, isLetter c = false := by
    cases fraction with
    | none => exact List.forall_mem_nil _
    | some digits => exact List.forall_mem_cons.2 ⟨by decide, hdigits digits⟩
  exact List.forall_mem_append.2 ⟨hsign, List.forall_mem_append.2 ⟨hdigits whole, hfraction⟩⟩

theorem isLetter_of_mem_run {command : WrittenCommand} : ∀ c ∈ command.run, isLetter c = false := by
  refine List.forall_mem_append.2 ⟨fun c hc => isLetter_of_separates (command.lead_separates c hc), fun c hc => ?_⟩
  obtain ⟨parameter, -, hmem⟩ := List.mem_flatMap.1 hc
  obtain hnumber | hgap := List.mem_append.1 hmem
  · exact isLetter_of_mem_text c hnumber
  · exact isLetter_of_separates (parameter.gap_separates c hgap)

end Letters

section Numbers

variable {α : Type} [Scalar α]

theorem isDigit_of_separates {c : Char} (h : Text.isListSeparator c = true) : c.isDigit = false := by
  rw [Bool.eq_false_iff, ne_eq, Char.isDigit_iff_toNat]
  simp only [Text.isListSeparator, Text.isBlank, Bool.or_eq_true, Bool.and_eq_true, decide_eq_true_eq, beq_iff_eq] at h
  obtain h | rfl := h
  · have hzero : '0'.toNat = 48 := rfl
    have hnine : '9'.toNat = 57 := rfl
    omega
  · decide

theorem ne_of_separates {c mark : Char} (h : Text.isListSeparator c = true)
    (hmark : Text.isListSeparator mark = false) : c ≠ mark := by
  rintro rfl
  exact Bool.false_ne_true (hmark.symm.trans h)

theorem scanFixed_of_separates {c : Char} (h : Text.isListSeparator c = true) (rest : List Char) :
    Decimal.scanFixed (c :: rest) = none := by
  have hdigit : ¬c.isDigit = true := Bool.eq_false_iff.1 (isDigit_of_separates h)
  have hmagnitude : Decimal.scanMagnitude (c :: rest) = none := by
    rw [Decimal.scanMagnitude, List.takeWhile_cons_of_neg hdigit, List.dropWhile_cons_of_neg hdigit]
    dsimp only
    split
    next hpoint => exact absurd (List.cons.inj hpoint).1 (ne_of_separates h (by decide))
    · rfl
  rw [Decimal.scanFixed, WrittenNumber.scanSign_of_ne (ne_of_separates h (by decide)) (ne_of_separates h (by decide))]
  dsimp only
  rw [hmagnitude, Option.map_none]

theorem readNumbers_nil : (readNumbers [] : List α) = [] := by
  rw [readNumbers]
  rfl

theorem readNumbers_of_scanFixed {cs rest : List Char} {decimal : Decimal}
    (h : Decimal.scanFixed cs = some (decimal, rest)) :
    (readNumbers cs : List α) = decimal.value :: readNumbers rest := by
  rw [readNumbers]
  split
  next d r hscan =>
    rw [h] at hscan
    cases hscan
    rfl
  next hscan =>
    rw [h] at hscan
    cases hscan

/-- Separators are passed over. -/
theorem readNumbers_separators {gap : List Char} (h : ∀ c ∈ gap, Text.isListSeparator c = true) (rest : List Char) :
    (readNumbers (gap ++ rest) : List α) = readNumbers rest := by
  induction gap with
  | nil => rfl
  | cons c gap ih =>
    have hnone := scanFixed_of_separates (h c List.mem_cons_self) (gap ++ rest)
    rw [List.cons_append, readNumbers]
    split
    next d r hscan =>
      rw [hnone] at hscan
      cases hscan
    · exact ih fun other hmem => h other (.tail _ hmem)

/-- A number ends in front of a separator. -/
theorem ends_of_separates {number : WrittenNumber} {c : Char} (h : Text.isListSeparator c = true) (rest : List Char) :
    number.Ends (c :: rest) := by
  rintro c ⟨⟩
  exact ⟨isDigit_of_separates h, fun _ => ne_of_separates h (by decide)⟩

/-- A number ends where it is told apart from the one after it. -/
theorem ends_of_precedes {parameter next : WrittenParameter} (h : parameter.Precedes next) (rest : List Char) :
    parameter.number.Ends (parameter.gap ++ (next.number.text ++ rest)) := by
  obtain ⟨number, gap, hgap⟩ := parameter
  cases gap with
  | cons c gap => exact ends_of_separates (hgap c List.mem_cons_self) _
  | nil =>
    obtain ⟨⟨sign, whole, fraction, hdigit⟩, _, _⟩ := next
    obtain hnone | hsign | ⟨hwhole, hpoint⟩ := h
    · exact absurd rfl hnone
    · match sign with
      | none => exact absurd rfl hsign
      | some true | some false =>
        rintro c ⟨⟩
        exact ⟨rfl, fun _ => by decide⟩
    · match sign, fraction with
      | some true, _ | some false, _ =>
        rintro c ⟨⟩
        exact ⟨rfl, fun _ => by decide⟩
      | none, some digits =>
        obtain rfl : whole = [] := hwhole
        rintro c ⟨⟩
        exact ⟨rfl, fun hnone => absurd hnone hpoint⟩
      | none, none => exact absurd (hdigit.resolve_left fun h => h hwhole) fun ⟨_, hnone, _⟩ => by cases hnone

theorem readNumbers_parameters (parameters : List WrittenParameter)
    (h : parameters.IsChain WrittenParameter.Precedes) :
    (readNumbers (parameters.flatMap WrittenParameter.text) : List α) =
      parameters.map (·.number.decimal.value) := by
  induction parameters with
  | nil => exact readNumbers_nil
  | cons parameter rest ih =>
    have hends : parameter.number.Ends (parameter.gap ++ rest.flatMap WrittenParameter.text) := by
      cases rest with
      | nil =>
        obtain ⟨number, gap, hgap⟩ := parameter
        cases gap with
        | nil => exact fun c hnone => by cases hnone
        | cons c gap => exact ends_of_separates (hgap c List.mem_cons_self) _
      | cons next rest =>
        rw [List.flatMap_cons, WrittenParameter.text, List.append_assoc]
        exact ends_of_precedes (List.isChain_cons_cons.1 h).1 _
    rw [List.flatMap_cons, WrittenParameter.text, List.append_assoc,
      readNumbers_of_scanFixed (parameter.number.scanFixed_text hends), readNumbers_separators parameter.gap_separates,
      ih h.of_cons, List.map_cons]

theorem readNumbers_run (command : WrittenCommand) :
    (readNumbers command.run : List α) = command.parameters.map (·.number.decimal.value) := by
  rw [WrittenCommand.run, readNumbers_separators command.lead_separates,
    readNumbers_parameters _ command.told_apart]

end Numbers

section Commands

variable {α : Type} [Scalar α]

theorem readAll_run {run : List Char} (h : ∀ c ∈ run, isLetter c = false) (rest : List Char) :
    (readAll (run ++ rest) : List (PathCommand α)) = readAll rest := by
  induction run with
  | nil => rfl
  | cons c run ih =>
    have hnone : CommandKind.ofLetter? c = none :=
      Option.isNone_iff_eq_none.1 (Option.isSome_eq_false_iff.1 (h c List.mem_cons_self))
    rw [List.cons_append, readAll, hnone]
    exact ih fun other hmem => h other (.tail _ hmem)

/-- A command is read to the letter of the next one. -/
theorem readAll_text (command : WrittenCommand) {rest : List Char} (h : ∀ c ∈ rest.head?, isLetter c = true) :
    (readAll (command.text ++ rest) : List (PathCommand α)) = command.command :: readAll rest := by
  have hrun : (command.run ++ rest).takeWhile (!isLetter ·) = command.run := by
    rw [List.takeWhile_append_of_pos fun c hc => by rw [isLetter_of_mem_run c hc]; rfl]
    cases rest with
    | nil => exact List.append_nil _
    | cons c rest => rw [List.takeWhile_cons_of_neg (by rw [h c rfl]; exact Bool.false_ne_true), List.append_nil]
  rw [WrittenCommand.text, List.cons_append, readAll, CommandKind.ofLetter?_written]
  dsimp only
  rw [hrun, readNumbers_run, CommandKind.written_bne, readAll_run isLetter_of_mem_run]
  rfl

/-- Path data reads as the commands that are written in it, whichever signs, points and separators keep their numbers
    apart. -/
theorem tokenize_text (commands : List WrittenCommand) :
    tokenize (String.ofList (commands.flatMap WrittenCommand.text)) =
      commands.map (WrittenCommand.command : WrittenCommand → PathCommand α) := by
  rw [tokenize, String.toList_ofList]
  induction commands with
  | nil => rfl
  | cons command rest ih =>
    have hletter : ∀ c ∈ (rest.flatMap WrittenCommand.text).head?, isLetter c = true := by
      cases rest with
      | nil => exact fun c hnone => by cases hnone
      | cons next rest =>
        rintro c ⟨⟩
        rw [isLetter, CommandKind.ofLetter?_written]
        rfl
    rw [List.flatMap_cons, readAll_text command hletter, ih, List.map_cons]

example : (tokenize "m1-2.5.5 3,+4z" : List (PathCommand Rat)) =
    [⟨.move, true, [1, -5 / 2, 1 / 2, 3, 4]⟩, ⟨.close, true, []⟩] := by
  decide +kernel

end Commands

end PathCommand

end SvgPage
