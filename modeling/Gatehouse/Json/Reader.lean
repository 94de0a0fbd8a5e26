import Gatehouse.Json.Quoted
import Gatehouse.Number.Numeral
import Gatehouse.Text.Cut
import Gatehouse.Value.Datum

namespace Gatehouse.Json

open Utf16 (Point)

def isSpace (c : Char) : Bool := c = ' ' || c = '\t' || c = '\n' || c = '\r'

def skip (cs : List Point) : List Point := cs.dropWhile (Point.isIn isSpace)

/-- The words that stand for values. -/
def words : List (String × Datum) :=
  [("null", .null), ("true", .bool true), ("false", .bool false), ("NaN", .float .undefined),
   ("Infinity", .float (.infinite false)), ("-Infinity", .float (.infinite true))]

def readWord? (cs : List Char) : Option (Datum × List Char) :=
  words.findSome? fun (word, v) => (Text.after? word.toList cs).map fun rest => (v, rest)

/-- The most digits that a whole number may have. -/
def wholeLimit : Nat := 4300

/-- Numerals with a fraction or a power may have any length. -/
def numeralValue? (n : Numeral) : Option Datum :=
  if !n.isWhole then some (.float n.toBinary64)
  else if n.whole.length ≤ wholeLimit then some (.int n.toInt)
  else none

def readNumber? (cs : List Char) : Option (Datum × List Char) :=
  match Numeral.read? cs with
  | some (n, rest) => (numeralValue? n).map fun v => (v, rest)
  | none => none

/-- A value without quotes or brackets, which only characters make up. -/
def readPlain? (cs : List Point) : Option (Datum × List Point) :=
  let front := Point.leading cs
  let found := match readWord? front with
    | some found => some found
    | none => readNumber? front
  found.map fun (v, rest) => (v, cs.drop (front.length - rest.length))

/-- Members with the same name become one entry, at the place of the first. -/
def ofMembers (members : List (Datum × Datum)) : Datum :=
  .map (members.foldl (fun entries (name, v) => Datum.putText name v entries) [])

/-- The name of a member, with the colon and the space after it. -/
def readName? (cs : List Point) : Option (Datum × List Point) :=
  match cs with
  | .char '"' :: rest =>
    match readQuoted? rest with
    | none => none
    | some (name, rest) =>
      match skip rest with
      | .char ':' :: rest => some (.ofPoints name, skip rest)
      | _ => none
  | _ => none

/-- Why a text cannot be read. -/
inductive Failure where
  | malformed
  | tooDeep (kind : Kind)
  deriving DecidableEq, Repr

/-- A part that is there or makes the text malformed. -/
def required {α : Type} : Option α → Except Failure α
  | some a => .ok a
  | none => .error .malformed

mutual

/-- A value that starts at the first character, with lists and objects down to a depth. Each step
into a value or to a next item takes fuel. -/
def readValue : Nat → Nat → List Point → Except Failure (Datum × List Point)
  | 0, _, _ => .error .malformed
  | fuel + 1, depth, cs =>
    match cs, depth with
    | .char '"' :: rest, _ =>
      (required (readQuoted? rest)).map fun (points, rest) => (.ofPoints points, rest)
    | .char '[' :: _, 0 => .error (.tooDeep .list)
    | .char '[' :: rest, depth + 1 =>
      match skip rest with
      | .char ']' :: rest => .ok (.list [], rest)
      | rest => (readItems fuel depth rest).map fun (items, rest) => (.list items, rest)
    | .char '\x7b' :: _, 0 => .error (.tooDeep .map)
    | .char '\x7b' :: rest, depth + 1 =>
      match skip rest with
      | .char '\x7d' :: rest => .ok (.map [], rest)
      | rest => (readMembers fuel depth rest).map fun (members, rest) => (ofMembers members, rest)
    | cs, _ => required (readPlain? cs)

/-- The items of a list up to its closing bracket; there is at least one. -/
def readItems : Nat → Nat → List Point → Except Failure (List Datum × List Point)
  | 0, _, _ => .error .malformed
  | fuel + 1, depth, cs =>
    match readValue fuel depth cs with
    | .error failure => .error failure
    | .ok (v, rest) =>
      match skip rest with
      | .char ']' :: rest => .ok ([v], rest)
      | .char ',' :: rest =>
        (readItems fuel depth (skip rest)).map fun (vs, rest) => (v :: vs, rest)
      | _ => .error .malformed

/-- The members of an object up to its closing brace; there is at least one. -/
def readMembers : Nat → Nat → List Point → Except Failure (List (Datum × Datum) × List Point)
  | 0, _, _ => .error .malformed
  | fuel + 1, depth, cs =>
    match readName? cs with
    | none => .error .malformed
    | some (name, rest) =>
      match readValue fuel depth rest with
      | .error failure => .error failure
      | .ok (v, rest) =>
        match skip rest with
        | .char '\x7d' :: rest => .ok ([(name, v)], rest)
        | .char ',' :: rest =>
          (readMembers fuel depth (skip rest)).map fun (ms, rest) => ((name, v) :: ms, rest)
        | _ => .error .malformed

end

/-- A whole text: one value with space around it. Two steps for each character are enough. -/
def read (depth : Nat) (cs : List Point) : Except Failure Datum :=
  match readValue (2 * cs.length + 2) depth (skip cs) with
  | .ok (v, rest) => if (skip rest).isEmpty then .ok v else .error .malformed
  | .error failure => .error failure

/-- A whole text of any depth. -/
def read? (cs : List Char) : Option Datum := (read cs.length (cs.map .char)).toOption

end Gatehouse.Json
