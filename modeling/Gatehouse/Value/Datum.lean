import Gatehouse.Fault
import Gatehouse.Text.Utf16

namespace Gatehouse

open Utf16 (Point)

/-- A text in which halves of surrogate pairs stand alone. -/
structure RaggedText where
  points : List Point
  isRagged : points.any Point.isHalf = true
  deriving DecidableEq, Repr

/-- The first of the halves, and the stretch of them that it starts, cannot be encoded. -/
def RaggedText.fault (t : RaggedText) : Fault :=
  let first := (t.points.takeWhile (!·.isHalf)).length
  let stretch := (t.points.drop first).takeWhile Point.isHalf
  .loneHalf ((t.points.findSome? Point.half?).getD 0) first (first + stretch.length - 1)

/-- What is submitted, or compared with it: a value whose texts need not be whole. -/
inductive Datum where
  | null
  | bool (b : Bool)
  | int (n : Int)
  | float (x : Binary64)
  | text (s : String)
  | ragged (t : RaggedText)
  | bytes (b : List UInt8)
  | list (items : List Datum)
  | tuple (items : List Datum)
  | map (entries : List (Datum × Datum))
  deriving Repr

namespace Datum

def kind : Datum → Kind
  | .null => .null
  | .bool _ => .bool
  | .int _ => .int
  | .float _ => .float
  | .text _ => .text
  | .ragged _ => .text
  | .bytes _ => .bytes
  | .list _ => .list
  | .tuple _ => .tuple
  | .map _ => .map

/-- A text, whole or not. -/
def isText (v : Datum) : Bool := v.kind = .text

/-- Zeros and whatever is empty count as false; a number that is none counts as true. -/
def truthy : Datum → Bool
  | .null => false
  | .bool b => b
  | .int n => n ≠ 0
  | .float x => !x.isZero
  | .text s => s ≠ ""
  | .ragged t => !t.points.isEmpty
  | .bytes b => !b.isEmpty
  | .list items => !items.isEmpty
  | .tuple items => !items.isEmpty
  | .map entries => !entries.isEmpty

mutual

def ofValue : Value → Datum
  | .null => .null
  | .bool b => .bool b
  | .int n => .int n
  | .float x => .float x
  | .text s => .text s
  | .bytes b => .bytes b
  | .list items => .list (ofValues items)
  | .tuple items => .tuple (ofValues items)
  | .map entries => .map (ofEntries entries)

def ofValues : List Value → List Datum
  | [] => []
  | v :: rest => ofValue v :: ofValues rest

def ofEntries : List (Value × Value) → List (Datum × Datum)
  | [] => []
  | (key, v) :: rest => (ofValue key, ofValue v) :: ofEntries rest

end

/-- The text that has these points. -/
def ofPoints (points : List Point) : Datum :=
  if h : points.any Point.isHalf then .ragged ⟨points, h⟩
  else .text (String.ofList (points.filterMap Point.char?))

/-- The text itself, if it can be encoded; only whole texts can. -/
def whole : Datum → Except Fault String
  | .text s => .ok s
  | .ragged t => .error t.fault
  | v => .error (.notText .encoded v.kind)

/-- What the entries hold under a text key. -/
def lookupText (name : String) : List (Datum × Datum) → Option Datum
  | [] => none
  | (.text k, v) :: rest => if k = name then some v else lookupText name rest
  | _ :: rest => lookupText name rest

/-- A map with text keys. -/
def ofFields (fields : List (String × Datum)) : Datum :=
  .map (fields.map fun (k, v) => (.text k, v))

/-- Whether two keys are the same text. -/
def sameText : Datum → Datum → Bool
  | .text s, .text t => s = t
  | .ragged s, .ragged t => s = t
  | _, _ => false

/-- Puts a value under a text. A text that is already there keeps its place. -/
def putText (key v : Datum) : List (Datum × Datum) → List (Datum × Datum)
  | [] => [(key, v)]
  | (k, w) :: rest => if sameText k key then (k, v) :: rest else (k, w) :: putText key v rest

/-- Characters make up a whole text. -/
@[simp] theorem ofPoints_chars (cs : List Char) :
    ofPoints (cs.map .char) = .text (String.ofList cs) := by
  have hnone : (cs.map Point.char).any Point.isHalf = false := by
    simp [List.any_map, Point.isHalf, Point.half?]
  have hchars : (cs.map Point.char).filterMap Point.char? = cs := by
    simp [List.filterMap_map, Function.comp_def, Point.char?]
  rw [ofPoints, dif_neg (by simp [hnone]), hchars]

end Datum

end Gatehouse
