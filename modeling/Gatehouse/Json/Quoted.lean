import Gatehouse.Text.Hex
import Gatehouse.Text.Utf16

namespace Gatehouse.Json

open Utf16 (Point Piece)

/-- The character that a letter after a backslash stands for. -/
def escaped? : Char → Option Char
  | '"' => some '"'
  | '\\' => some '\\'
  | '/' => some '/'
  | 'b' => some '\x08'
  | 'f' => some '\x0c'
  | 'n' => some '\n'
  | 'r' => some '\r'
  | 't' => some '\t'
  | _ => none

/-- Four hexadecimal digits. -/
def unit? (a b c d : Char) : Option Nat := do
  let a ← Hex.value? a
  let b ← Hex.value? b
  let c ← Hex.value? c
  let d ← Hex.value? d
  return ((a * 16 + b) * 16 + c) * 16 + d

/-- Whether a character may not stand as it is inside quotes: controls and the backslash. -/
def isSpecial (c : Char) : Bool := c.toNat < 0x20 || c = '\\'

/-- Reads up to the closing quote. Halves of a pair are joined only if both are escaped by their
numbers. -/
def readPieces? : List Point → Option (List Piece × List Point)
  | [] => none
  | .char '"' :: rest => some ([], rest)
  | .char '\\' :: .char 'u' :: .char a :: .char b :: .char c :: .char d :: rest =>
    match unit? a b c d, readPieces? rest with
    | some n, some (ps, rest) => some (.number n :: ps, rest)
    | _, _ => none
  | .char '\\' :: .char c :: rest =>
    match escaped? c, readPieces? rest with
    | some e, some (ps, rest) => some (.point (.char e) :: ps, rest)
    | _, _ => none
  | p :: rest =>
    if p.isIn isSpecial then none
    else match readPieces? rest with
      | some (ps, rest) => some (.point p :: ps, rest)
      | none => none

/-- The text whose opening quote has been read, and what follows it. -/
def readQuoted? (cs : List Point) : Option (List Point × List Point) :=
  (readPieces? cs).map fun (ps, rest) => (Utf16.join ps, rest)

/-- A character inside quotes: the quote, the backslash and the controls are escaped. -/
def quoteChar (c : Char) : List Char :=
  if c = '"' ∨ c = '\\' then ['\\', c]
  else if c.toNat < 0x20 then '\\' :: 'u' :: Hex.fixed 4 c.toNat
  else [c]

def quote (cs : List Char) : List Char := '"' :: cs.flatMap quoteChar ++ ['"']

end Gatehouse.Json
