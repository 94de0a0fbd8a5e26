namespace Gatehouse.Utf16

def isHigh (n : Nat) : Bool := 0xD800 ≤ n && n < 0xDC00

def isLow (n : Nat) : Bool := 0xDC00 ≤ n && n < 0xE000

/-- Whether a number stands for half of a surrogate pair. -/
def isHalf (n : Nat) : Bool := isHigh n || isLow n

/-- What stands at one place of a text: a character, or half of a surrogate pair without the other
half. -/
inductive Point where
  | char (c : Char)
  | half (n : Nat) (h : isHalf n = true)
  deriving DecidableEq, Repr

namespace Point

def char? : Point → Option Char
  | .char c => some c
  | .half _ _ => none

def half? : Point → Option Nat
  | .char _ => none
  | .half n _ => some n

def isHalf (p : Point) : Bool := p.half?.isSome

/-- Whether a character of some class stands here. -/
def isIn (p : Char → Bool) : Point → Bool
  | .char c => p c
  | .half _ _ => false

/-- The characters in front of the first half that stands alone. -/
def leading : List Point → List Char
  | .char c :: rest => c :: leading rest
  | _ => []

end Point

def pair (high low : Nat) : Char :=
  Char.ofNat (0x10000 + (high - 0xD800) * 0x400 + (low - 0xDC00))

/-- The numbers that a character is written with: its own, or two halves. -/
def units (c : Char) : List Nat :=
  let n := c.toNat
  if n < 0x10000 then [n]
  else [0xD800 + (n - 0x10000) / 0x400, 0xDC00 + (n - 0x10000) % 0x400]

def single (n : Nat) : Point :=
  if h : isHalf n then .half n h else .char (Char.ofNat n)

/-- A piece of a text in writing: a number, which may be half of a pair, or what stands for itself. -/
inductive Piece where
  | number (n : Nat)
  | point (p : Point)

/-- Joins each high half with the low half that follows it. -/
def join : List Piece → List Point
  | [] => []
  | .point p :: rest => p :: join rest
  | [.number n] => [single n]
  | .number n :: .point p :: rest => single n :: p :: join rest
  | .number n :: .number m :: rest =>
    if isHigh n && isLow m then .char (pair n m) :: join rest
    else single n :: join (.number m :: rest)

end Gatehouse.Utf16
