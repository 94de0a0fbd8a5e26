import Gatehouse.Fault
import Gatehouse.Value.Printer
import Gatehouse.Value.Key

namespace Gatehouse

/-- Infinite and undefined numbers are called by their names where a key has to be a text. -/
def keyNumber : Binary64.Layout :=
  { plainNumber with infinity := "Infinity".toList, notNumber := "NaN".toList }

namespace Value

/-- The text that stands for a key. -/
def keyName : Value → Except Fault String
  | .null => .ok "null"
  | .bool true => .ok "true"
  | .bool false => .ok "false"
  | .int n => .ok (String.ofList (wholeNumber n))
  | .float x => .ok (String.ofList (x.write keyNumber))
  | .text s => .ok s
  | v => .error (.nameless v.kind)

/-- Keys that have an order among each other: numbers of every kind, and otherwise keys of one
kind. -/
def comparable : Value → Value → Bool
  | .null, .null => false
  | a, b =>
    let number (v : Value) := v.kind = .bool || v.kind = .int || v.kind = .float
    a.kind = b.kind || (number a && number b)

/-- Numbers stand in order of size and texts in order of their characters. An undefined number is
not less than any other, nor greater. -/
def keyLess : Value → Value → Bool
  | .text s, .text t => s < t
  | a, b =>
    match a.magnitude?, b.magnitude? with
    | some x, some y => x.less y
    | _, _ => false

variable {α : Type}

/-- Whether a key is less than another, which has to be one of those with which it has an order. -/
def isLess (a b : Value × α) : Except Fault Bool :=
  if comparable a.1 b.1 then .ok (keyLess a.1 b.1)
  else .error (.notOrdered '<' a.1.kind b.1.kind)

/-- The entries that go on falling, or go on not falling, after the first one, and the rest. -/
def takeRun (falling : Bool) (last : Value × α) :
    List (Value × α) → Except Fault (List (Value × α) × List (Value × α))
  | [] => .ok ([last], [])
  | entry :: rest => do
    let less ← isLess entry last
    if less = falling then
      let (run, rest) ← takeRun falling entry rest
      return (last :: run, rest)
    else return ([last], entry :: rest)

/-- The first run in order. A run that falls is turned round. -/
def firstRun :
    List (Value × α) → Except Fault (List (Value × α) × List (Value × α))
  | first :: second :: rest => do
    let falling ← isLess second first
    let (run, rest) ← takeRun falling second rest
    return (if falling then (first :: run).reverse else first :: run, rest)
  | entries => .ok (entries, [])

/-- The place of an entry among others in order, behind those that are not greater. The middle one
is looked at first. -/
def placeAmong (entry : Value × α) (done : Array (Value × α)) (low high : Nat) :
    Except Fault Nat :=
  if h : low < high ∧ high ≤ done.size then
    let middle := low + (high - low) / 2
    have : middle < done.size := by omega
    (isLess entry done[middle]).bind fun less =>
      if less then placeAmong entry done low middle else placeAmong entry done (middle + 1) high
  else .ok low
termination_by high - low

/-- Puts the entries one by one among those that are in order. -/
def insertAll : List (Value × α) → List (Value × α) → Except Fault (List (Value × α))
  | done, [] => .ok done
  | done, entry :: rest => do
    let place ← placeAmong entry done.toArray 0 done.length
    insertAll (done.take place ++ entry :: done.drop place) rest

/-- The entries in the order of their keys. -/
def sortByKey (entries : List (Value × α)) : Except Fault (List (Value × α)) := do
  let (run, rest) ← firstRun entries
  insertAll run rest

/-- The entries of a map, each under its name. The first fault in the order of the entries
counts. -/
def namedEntries : List (Value × Except Fault Value) → Except Fault (List (Value × Value))
  | [] => .ok []
  | (key, v) :: rest => do
    let name ← keyName key
    let v ← v
    let more ← namedEntries rest
    return (.text name, v) :: more

mutual

def stored : Value → Except Fault Value
  | .list items => (storedItems items).map .list
  | .tuple items => (storedItems items).map .tuple
  | .map entries =>
    (sortByKey (storedEntries entries)).bind fun sorted =>
      (namedEntries sorted).map fun named => .map (putKeys named)
  | v => .ok v

def storedItems : List Value → Except Fault (List Value)
  | [] => .ok []
  | v :: rest =>
    match stored v with
    | .error fault => .error fault
    | .ok v => (storedItems rest).map (v :: ·)

def storedEntries : List (Value × Value) → List (Value × Except Fault Value)
  | [] => []
  | (key, v) :: rest => (key, stored v) :: storedEntries rest

end

end Value

example :
    let v : Value := .map [(.int 10, .text "a"), (.int 2, .text "b"), (.bool true, .null)]
    v.stored.toOption.map Value.toText = some "\x7b'true': None, '2': 'b', '10': 'a'\x7d" := by
  decide +kernel

end Gatehouse
