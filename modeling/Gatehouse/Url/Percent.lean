import Gatehouse.Text.Hex
import Gatehouse.Text.Utf8

namespace Gatehouse.Percent

inductive Token where
  | octet (b : UInt8)
  | char (c : Char)
  deriving DecidableEq, Repr

/-- What a character that is no part of an escape stands for. -/
def plain (c : Char) : Token :=
  if c.toNat < 0x80 then .octet (UInt8.ofNat c.toNat) else .char c

/-- A percent sign without two hexadecimal digits after it stands for itself. -/
def tokens : List Char → List Token
  | [] => []
  | '%' :: a :: b :: rest =>
    match Hex.octet? a b with
    | some o => .octet o :: tokens rest
    | none => plain '%' :: tokens (a :: b :: rest)
  | c :: rest => plain c :: tokens rest

/-- Reads the octets of each stretch. -/
def piecesFrom : Option Utf8.Begun → List Token → List Utf8.Piece
  | begun, [] => Utf8.finish begun
  | begun, .octet b :: rest =>
    let (pieces, next) := Utf8.advance begun b
    pieces ++ piecesFrom next rest
  | begun, .char c :: rest => Utf8.finish begun ++ .char c :: piecesFrom none rest

def pieces (cs : List Char) : List Utf8.Piece := piecesFrom none (tokens cs)

/-- Ill-formed octets become replacement characters. -/
def decode (cs : List Char) : List Char := (pieces cs).map Utf8.Piece.orReplacement

def escape (b : UInt8) : List Char :=
  ['%', Hex.upper (b.toNat / 16), Hex.upper (b.toNat % 16)]

def restore : Utf8.Piece → List Char
  | .char c => [c]
  | .stray bytes => bytes.flatMap escape

/-- Ill-formed octets are put back as escapes. -/
def decodeKeeping (cs : List Char) : List Char := (pieces cs).flatMap restore

def plusToSpace (c : Char) : Char := if c = '+' then ' ' else c

/-- Decoding where a plus stands for a space. -/
def decodePlus (cs : List Char) : List Char := decode (cs.map plusToSpace)

/-- Letters, digits and four marks never need an escape. -/
def isUnreserved (c : Char) : Bool :=
  c.isAlphanum || c = '_' || c = '.' || c = '-' || c = '~'

def encodeChar (keep : Char → Bool) (c : Char) : List Char :=
  if isUnreserved c || keep c then [c] else (String.utf8EncodeChar c).flatMap escape

/-- Escapes the octets of every character but the unreserved ones and those to be kept. -/
def encode (keep : Char → Bool) (cs : List Char) : List Char := cs.flatMap (encodeChar keep)

/-- Encoding where a space is written as a plus. -/
def encodePlus (keep : Char → Bool) (cs : List Char) : List Char :=
  cs.flatMap fun c => if c = ' ' then ['+'] else encodeChar keep c

example : decodePlus "%2Fa+b%zz%C3%A9".toList = "/a b%zzé".toList := by decide

example : decode "%E2%82é%AC".toList = "\uFFFDé\uFFFD".toList := by decide

example : decodeKeeping "%e2%82.%ff".toList = "%E2%82.%FF".toList := by decide

end Gatehouse.Percent
