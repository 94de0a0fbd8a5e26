import Gatehouse.Number.Binary64

namespace Gatehouse

/-- A map keeps its entries in the order in which their keys were first put in. -/
inductive Value where
  | null
  | bool (b : Bool)
  | int (n : Int)
  | float (x : Binary64)
  | text (s : String)
  | bytes (b : List UInt8)
  | list (items : List Value)
  | tuple (items : List Value)
  | map (entries : List (Value × Value))
  deriving Repr, Inhabited

inductive Kind where
  | null | bool | int | float | text | bytes | list | tuple | map
  deriving DecidableEq, Repr

/-- The name by which messages call a kind. -/
def Kind.name : Kind → String
  | .null => "NoneType"
  | .bool => "bool"
  | .int => "int"
  | .float => "float"
  | .text => "str"
  | .bytes => "bytes"
  | .list => "list"
  | .tuple => "tuple"
  | .map => "dict"

namespace Value

def kind : Value → Kind
  | .null => .null
  | .bool _ => .bool
  | .int _ => .int
  | .float _ => .float
  | .text _ => .text
  | .bytes _ => .bytes
  | .list _ => .list
  | .tuple _ => .tuple
  | .map _ => .map

def text? : Value → Option String
  | .text s => some s
  | _ => none

/-- A text that may be absent. -/
def ofText? : Option String → Value
  | some s => .text s
  | none => .null

/-- Zeros and whatever is empty count as false; a number that is none counts as true. -/
def truthy : Value → Bool
  | .null => false
  | .bool b => b
  | .int n => n ≠ 0
  | .float x => !x.isZero
  | .text s => s ≠ ""
  | .bytes b => !b.isEmpty
  | .list items => !items.isEmpty
  | .tuple items => !items.isEmpty
  | .map entries => !entries.isEmpty

/-- What the entries hold under a text key. -/
def lookupText (name : String) : List (Value × Value) → Option Value
  | [] => none
  | (.text k, v) :: rest => if k = name then some v else lookupText name rest
  | _ :: rest => lookupText name rest

/-- A field of a map by name; other values have no fields. -/
def field? (name : String) : Value → Option Value
  | .map entries => lookupText name entries
  | _ => none

/-- What a value gives when it is gone through one by one: the items of a list or tuple, the
characters of a text, the octets as numbers, the keys of a map. Other values cannot be gone
through. -/
def members? : Value → Option (List Value)
  | .text s => some (s.toList.map fun c => .text (String.singleton c))
  | .bytes b => some (b.map fun o => .int o.toNat)
  | .list items => some items
  | .tuple items => some items
  | .map entries => some (entries.map Prod.fst)
  | _ => none

/-- A map with text keys. -/
def ofFields (fields : List (String × Value)) : Value :=
  .map (fields.map fun (k, v) => (.text k, v))

end Value

end Gatehouse
