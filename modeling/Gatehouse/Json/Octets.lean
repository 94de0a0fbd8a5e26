import Gatehouse.Fault
import Gatehouse.Json.Reader
import Gatehouse.Text.Utf8

namespace Gatehouse.Json

open Utf16 (Point)

inductive Charset where
  | utf8
  | utf16 (bigEndian : Bool)
  | utf32 (bigEndian : Bool)
  deriving DecidableEq, Repr

def charset : List UInt8 → Charset
  | 0 :: b :: _ :: _ :: _ => if b = 0 then .utf32 true else .utf16 true
  | _ :: 0 :: c :: d :: _ => if c = 0 ∧ d = 0 then .utf32 false else .utf16 false
  | [0, _] => .utf16 true
  | [_, 0] => .utf16 false
  | _ => .utf8

def word (bigEndian : Bool) (a b : Nat) : Nat := if bigEndian then a * 256 + b else b * 256 + a

def units16? (bigEndian : Bool) : List UInt8 → Option (List Nat)
  | [] => some []
  | a :: b :: rest => (units16? bigEndian rest).map (word bigEndian a.toNat b.toNat :: ·)
  | [_] => none

/-- A number past the last character is an error. -/
def units32? (bigEndian : Bool) : List UInt8 → Option (List Nat)
  | [] => some []
  | a :: b :: c :: d :: rest =>
    let first := word bigEndian a.toNat b.toNat
    let second := word bigEndian c.toNat d.toNat
    let n := if bigEndian then first * 0x10000 + second else second * 0x10000 + first
    if n < 0x110000 then (units32? bigEndian rest).map (n :: ·) else none
  | _ => none

/-- One byte order mark before UTF-8 is dropped. -/
def withoutMark : List UInt8 → List UInt8
  | 0xEF :: 0xBB :: 0xBF :: rest => rest
  | bytes => bytes

def points? (bytes : List UInt8) : Option (List Point) :=
  match charset bytes with
  | .utf8 => (Utf8.decode? (withoutMark bytes)).map fun cs => cs.map .char
  | .utf16 bigEndian => (units16? bigEndian bytes).map fun ns => Utf16.join (ns.map .number)
  | .utf32 bigEndian => (units32? bigEndian bytes).map fun ns => ns.map Utf16.single

/-- How deep lists and objects in a body may be nested. -/
def depthLimit : Nat := 976

/-- The value of a body. What cannot be read is null, and nesting past the limit is a fault. -/
def ofOctets (bytes : List UInt8) : Except Fault Datum :=
  match points? bytes with
  | none => .ok .null
  | some cs =>
    match read depthLimit cs with
    | .ok v => .ok v
    | .error .malformed => .ok .null
    | .error (.tooDeep kind) => .error (.tooDeep kind)

end Gatehouse.Json
