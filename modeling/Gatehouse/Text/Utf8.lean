namespace Gatehouse.Utf8

inductive Piece where
  | char (c : Char)
  | stray (bytes : List UInt8)
  deriving DecidableEq, Repr

/-- A character that has begun: its octets so far, the bits they carry, how many octets it still
owes after the next one, and the bounds on the next one. -/
structure Begun where
  seen : List UInt8
  bits : Nat
  owed : Nat
  low : UInt8
  high : UInt8

/-- What an octet does where no character has begun. The bounds on the second octet keep out long
forms of short characters, surrogates and numbers past the last character. -/
def start (b : UInt8) : List Piece × Option Begun :=
  let n := b.toNat
  if n < 0x80 then ([.char (Char.ofNat n)], none)
  else if n < 0xC2 then ([.stray [b]], none)
  else if n < 0xE0 then ([], some ⟨[b], n - 0xC0, 0, 0x80, 0xBF⟩)
  else if n < 0xF0 then
    let low : UInt8 := if n = 0xE0 then 0xA0 else 0x80
    let high : UInt8 := if n = 0xED then 0x9F else 0xBF
    ([], some ⟨[b], n - 0xE0, 1, low, high⟩)
  else if n < 0xF5 then
    let low : UInt8 := if n = 0xF0 then 0x90 else 0x80
    let high : UInt8 := if n = 0xF4 then 0x8F else 0xBF
    ([], some ⟨[b], n - 0xF0, 2, low, high⟩)
  else ([.stray [b]], none)

/-- One octet more. An octet out of bounds ends what had begun and is then taken afresh. -/
def advance : Option Begun → UInt8 → List Piece × Option Begun
  | none, b => start b
  | some p, b =>
    if p.low ≤ b ∧ b ≤ p.high then
      let bits := p.bits * 64 + (b.toNat - 0x80)
      match p.owed with
      | 0 => ([.char (Char.ofNat bits)], none)
      | owed + 1 => ([], some ⟨p.seen ++ [b], bits, owed, 0x80, 0xBF⟩)
    else
      let (pieces, next) := start b
      (.stray p.seen :: pieces, next)

/-- What remains of a character that never finished. -/
def finish : Option Begun → List Piece
  | none => []
  | some p => [.stray p.seen]

/-- The pieces that octets complete, and what is left begun after them. -/
def feed : Option Begun → List UInt8 → List Piece × Option Begun
  | begun, [] => ([], begun)
  | begun, b :: rest =>
    let (pieces, next) := advance begun b
    let (more, last) := feed next rest
    (pieces ++ more, last)

def cut (bytes : List UInt8) : List Piece :=
  let (pieces, last) := feed none bytes
  pieces ++ finish last

def encode (cs : List Char) : List UInt8 := cs.flatMap String.utf8EncodeChar

/-- All characters, or nothing if there is a stretch that is none. -/
def Piece.all? : List Piece → Option (List Char)
  | [] => some []
  | .char c :: rest => (Piece.all? rest).map (c :: ·)
  | .stray _ :: _ => none

def decode? (bytes : List UInt8) : Option (List Char) := Piece.all? (cut bytes)

/-- Puts one replacement character for each stretch. -/
def Piece.orReplacement : Piece → Char
  | .char c => c
  | .stray _ => '\uFFFD'

example : cut [0xE2, 0x82, 0xAC] = [.char '€'] := by decide

example : cut [0xE2, 0x82, 0x41] = [.stray [0xE2, 0x82], .char 'A'] := by decide

-- Long forms, surrogates and numbers past the last character fall apart into single octets.

example : cut [0xC0, 0xAF] = [.stray [0xC0], .stray [0xAF]] := by decide

example : cut [0xED, 0xA0, 0x80] = [.stray [0xED], .stray [0xA0], .stray [0x80]] := by decide

example : (cut [0xF4, 0x90, 0x80, 0x80]).length = 4 := by decide

end Gatehouse.Utf8
