namespace SvgPage.Utf8

/-- The bytes of a character. -/
def encodeChar (c : Char) : List UInt8 :=
  let code := c.toNat
  if code < 0x80 then
    [code.toUInt8]
  else if code < 0x800 then
    [(0xC0 + code / 0x40).toUInt8, (0x80 + code % 0x40).toUInt8]
  else if code < 0x10000 then
    [(0xE0 + code / 0x1000).toUInt8, (0x80 + code / 0x40 % 0x40).toUInt8, (0x80 + code % 0x40).toUInt8]
  else
    [(0xF0 + code / 0x40000).toUInt8, (0x80 + code / 0x1000 % 0x40).toUInt8,
      (0x80 + code / 0x40 % 0x40).toUInt8, (0x80 + code % 0x40).toUInt8]

def encode (s : String) : List UInt8 := s.toList.flatMap encodeChar

/-- What a first byte announces: how many bytes follow, the bits it contributes, and the bounds of the
    byte after it. The bounds rule out forms that are too long and code points that are no
    characters. -/
structure Lead where
  following : Nat
  bits : Nat
  low : Nat := 0x80
  high : Nat := 0xBF

def lead? (byte : UInt8) : Option Lead :=
  let n := byte.toNat
  if n < 0x80 then some { following := 0, bits := n }
  else if n < 0xC2 then none
  else if n < 0xE0 then some { following := 1, bits := n - 0xC0 }
  else if n == 0xE0 then some { following := 2, bits := 0, low := 0xA0 }
  else if n == 0xED then some { following := 2, bits := 0xD, high := 0x9F }
  else if n < 0xF0 then some { following := 2, bits := n - 0xE0 }
  else if n == 0xF0 then some { following := 3, bits := 0, low := 0x90 }
  else if n < 0xF4 then some { following := 3, bits := n - 0xF0 }
  else if n == 0xF4 then some { following := 3, bits := 4, high := 0x8F }
  else none

/-- Reads the bytes after the first. Where one is out of bounds, reading stops before it. -/
def follow : (following low high bits : Nat) → List UInt8 → Option Char × List UInt8
  | 0, _, _, bits, rest => (some (Char.ofNat bits), rest)
  | following + 1, low, high, bits, byte :: rest =>
    if low ≤ byte.toNat && byte.toNat ≤ high then
      follow following 0x80 0xBF (bits * 0x40 + byte.toNat % 0x40) rest
    else
      (none, byte :: rest)
  | _ + 1, _, _, _, [] => (none, [])

theorem length_follow_le (following low high bits : Nat) (bytes : List UInt8) :
    (follow following low high bits bytes).2.length ≤ bytes.length := by
  induction following generalizing low high bits bytes with
  | zero => cases bytes <;> exact Nat.le_refl _
  | succ following ih =>
    cases bytes with
    | nil => exact Nat.le_refl _
    | cons byte rest =>
      rw [follow]
      split
      · exact Nat.le_succ_of_le (ih _ _ _ rest)
      · exact Nat.le_refl _

/-- The characters of a text in bytes, with `none` for each longest part that starts a character but
    does not complete it, and for each byte that starts none. -/
def decode : List UInt8 → List (Option Char)
  | [] => []
  | byte :: rest =>
    match lead? byte with
    | none => none :: decode rest
    | some lead =>
      let read := follow lead.following lead.low lead.high lead.bits rest
      read.1 :: decode read.2
termination_by bytes => bytes.length
decreasing_by
  · exact Nat.lt_succ_self _
  · exact Nat.lt_succ_of_le (length_follow_le ..)

/-- The text in the bytes, with a replacement character for each part that is not valid. -/
def decodeText (bytes : List UInt8) : String :=
  String.ofList ((decode bytes).map fun c => c.getD '\uFFFD')

def isValid (bytes : List UInt8) : Bool := (decode bytes).all Option.isSome

end SvgPage.Utf8
