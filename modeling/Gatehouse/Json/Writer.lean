import Gatehouse.Json.Quoted
import Gatehouse.Value.Printer

namespace Gatehouse.Json

/-- The name that stands for an infinite or undefined number. -/
def numberName (x : Binary64) : List Char :=
  match x with
  | .finite .. => x.write plainNumber
  | .infinite false => "Infinity".toList
  | .infinite true => "-Infinity".toList
  | .undefined => "NaN".toList

mutual

/-- A tuple is written as a list, octets as their digits, and a key that is no text as the text of
its literal. -/
def write : Value → List Char
  | .null => "null".toList
  | .bool true => "true".toList
  | .bool false => "false".toList
  | .int n => wholeNumber n
  | .float x => numberName x
  | .text s => quote s.toList
  | .bytes b => quote (Hex.write b)
  | .list items => '[' :: writeItems items ++ [']']
  | .tuple items => '[' :: writeItems items ++ [']']
  | .map entries => '\x7b' :: writeEntries entries ++ ['\x7d']

def writeItems : List Value → List Char
  | [] => []
  | [v] => write v
  | v :: rest => write v ++ ',' :: writeItems rest

def writeEntries : List (Value × Value) → List Char
  | [] => []
  | [(k, v)] => writeKey k ++ ':' :: write v
  | (k, v) :: rest => writeKey k ++ ':' :: write v ++ ',' :: writeEntries rest

def writeKey : Value → List Char
  | .text s => quote s.toList
  | k => quote k.literal

end

end Gatehouse.Json
