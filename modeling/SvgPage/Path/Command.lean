import SvgPage.Numeric.Numeral

namespace SvgPage

/-- What a letter of path data draws. -/
inductive CommandKind where
  | move
  | line
  | horizontal
  | vertical
  | cubic
  | smoothCubic
  | quadratic
  | smoothQuadratic
  | arc
  | close
deriving DecidableEq, Repr

namespace CommandKind

/-- The capital letter of a command. -/
def letter : CommandKind → Char
  | move => 'M'
  | line => 'L'
  | horizontal => 'H'
  | vertical => 'V'
  | cubic => 'C'
  | smoothCubic => 'S'
  | quadratic => 'Q'
  | smoothQuadratic => 'T'
  | arc => 'A'
  | close => 'Z'

def all : List CommandKind :=
  [move, line, horizontal, vertical, cubic, smoothCubic, quadratic, smoothQuadratic, arc, close]

def ofLetter? (c : Char) : Option CommandKind := all.find? fun kind => kind.letter == c.toUpper

end CommandKind

/-- A letter of path data and the numbers up to the next letter. -/
structure PathCommand (α : Type) where
  kind : CommandKind
  relative : Bool
  parameters : List α
deriving DecidableEq, Repr

theorem Decimal.length_scanMagnitude_lt {cs digits rest : List Char} {places : Nat}
    (h : scanMagnitude cs = some (digits, places, rest)) : rest.length < cs.length := by
  have hsplit := congrArg List.length (List.takeWhile_append_dropWhile (p := Char.isDigit) (l := cs))
  rw [List.length_append] at hsplit
  unfold scanMagnitude at h
  dsimp only at h
  split at h
  · next tail hdrop =>
    rw [hdrop, List.length_cons] at hsplit
    have htail := (List.dropWhile_suffix Char.isDigit (l := tail)).length_le
    split at h
    · cases h
    · cases h
      omega
  · split at h
    · cases h
    · next hwhole =>
      cases h
      cases hdigits : cs.takeWhile Char.isDigit with
      | nil => rw [hdigits] at hwhole; exact absurd rfl hwhole
      | cons digit more => rw [hdigits, List.length_cons] at hsplit; omega

theorem Decimal.length_scanFixed_lt {cs rest : List Char} {d : Decimal}
    (h : scanFixed cs = some (d, rest)) : rest.length < cs.length := by
  have hsign : (scanSign cs).2.length ≤ cs.length := by
    unfold scanSign
    split <;> simp
  unfold scanFixed at h
  obtain ⟨⟨digits, places, tail⟩, hscan, heq⟩ := Option.map_eq_some_iff.1 h
  cases heq
  exact Nat.lt_of_lt_of_le (length_scanMagnitude_lt hscan) hsign

namespace PathCommand

variable {α : Type} [Scalar α]

/-- The numbers in a text, in signs, digits and points alone. What lies between them is passed over,
    so that an exponent reads as a number of its own. -/
def readNumbers (cs : List Char) : List α :=
  match h : Decimal.scanFixed cs with
  | some (decimal, rest) =>
    have := Decimal.length_scanFixed_lt h
    decimal.value :: readNumbers rest
  | none =>
    match cs with
    | [] => []
    | _ :: rest => readNumbers rest
termination_by cs.length

def isLetter (c : Char) : Bool := (CommandKind.ofLetter? c).isSome

/-- The commands of path data. What stands before the first letter is passed over. -/
def readAll : List Char → List (PathCommand α)
  | [] => []
  | c :: rest =>
    match CommandKind.ofLetter? c with
    | none => readAll rest
    | some kind =>
      ⟨kind, c != kind.letter, readNumbers (rest.takeWhile (!isLetter ·))⟩ :: readAll rest

/-- Splits path data into its commands. -/
def tokenize (data : String) : List (PathCommand α) := readAll data.toList

end PathCommand

end SvgPage
