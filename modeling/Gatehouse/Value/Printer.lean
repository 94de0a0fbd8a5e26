import Gatehouse.Number.Numeral
import Gatehouse.Number.Shortest
import Gatehouse.Text.Hex
import Gatehouse.Text.Printable
import Gatehouse.Value.Basic

namespace Gatehouse

/-- Numbers are positional from 0.0001 up to 10¹⁶, keep a zero after the point, and have an exponent
of at least two digits. -/
def plainNumber : Binary64.Layout where
  least := -4
  beyond := 16
  mark := 'e'
  exponentDigits := 2
  wholeTail := ['.', '0']
  infinity := ['i', 'n', 'f']
  notNumber := ['n', 'a', 'n']

def Binary64.toText (x : Binary64) : String := String.ofList (x.write plainNumber)

/-- The number that a written form stands for. -/
def Binary64.ofText? (s : String) : Option Binary64 :=
  match s with
  | "nan" => some .undefined
  | "inf" => some (.infinite false)
  | "-inf" => some (.infinite true)
  | s =>
    match Numeral.read? s.toList with
    | some (n, []) => some n.toBinary64
    | _ => none

/-- A whole number in decimal digits. -/
def wholeNumber (n : Int) : List Char :=
  if n < 0 then '-' :: Nat.toDigits 10 n.natAbs else Nat.toDigits 10 n.natAbs

namespace Quoted

/-- The single quote, unless the text has one and has no double quote. -/
def mark (cs : List Char) : Char :=
  if cs.contains '\'' && !cs.contains '"' then '"' else '\''

/-- Characters that are written by a letter after a backslash. -/
def letter? : Char → Option Char
  | '\n' => some 'n'
  | '\r' => some 'r'
  | '\t' => some 't'
  | _ => none

/-- An unprintable character is written by its number in two, four or eight digits. -/
def numbered (c : Char) : List Char :=
  let n := c.toNat
  if n < 0x100 then '\\' :: 'x' :: Hex.fixed 2 n
  else if n < 0x10000 then '\\' :: 'u' :: Hex.fixed 4 n
  else '\\' :: 'U' :: Hex.fixed 8 n

def char (quote c : Char) : List Char :=
  if c = quote ∨ c = '\\' then ['\\', c]
  else match letter? c with
    | some l => ['\\', l]
    | none => if isPrintable c then [c] else numbered c

def text (cs : List Char) : List Char :=
  let quote := mark cs
  quote :: cs.flatMap (char quote) ++ [quote]

/-- In octets only the printable characters of the first 128 stand as they are. -/
def octet (quote : Char) (b : UInt8) : List Char :=
  let c := Char.ofNat b.toNat
  if b < 0x7F then char quote c else '\\' :: 'x' :: Hex.writeOctet b

def octets (bs : List UInt8) : List Char :=
  let quote := mark (bs.map fun b => Char.ofNat b.toNat)
  'b' :: quote :: bs.flatMap (octet quote) ++ [quote]

end Quoted

namespace Value

mutual

def literal : Value → List Char
  | .null => "None".toList
  | .bool true => "True".toList
  | .bool false => "False".toList
  | .int n => wholeNumber n
  | .float x => x.write plainNumber
  | .text s => Quoted.text s.toList
  | .bytes b => Quoted.octets b
  | .list items => '[' :: literals items ++ [']']
  | .tuple [v] => '(' :: literal v ++ [',', ')']
  | .tuple items => '(' :: literals items ++ [')']
  | .map entries => '\x7b' :: entryLiterals entries ++ ['\x7d']

def literals : List Value → List Char
  | [] => []
  | [v] => literal v
  | v :: rest => literal v ++ ',' :: ' ' :: literals rest

def entryLiterals : List (Value × Value) → List Char
  | [] => []
  | [(k, v)] => literal k ++ ':' :: ' ' :: literal v
  | (k, v) :: rest => literal k ++ ':' :: ' ' :: literal v ++ ',' :: ' ' :: entryLiterals rest

end

/-- A text as it is, any other value as a literal. -/
def toText : Value → String
  | .text s => s
  | v => String.ofList v.literal

end Value

example : (Binary64.ofDecimal false 1 (-1)).write plainNumber = "0.1".toList := by decide +kernel

example : (Binary64.ofDecimal true 1 16).write plainNumber = "-1e+16".toList := by decide +kernel

example : (Binary64.ofDecimal false 9999999999999998 0).write plainNumber =
    "9999999999999998.0".toList := by decide +kernel

example : (Binary64.finite false 1).write plainNumber = "5e-324".toList := by decide +kernel

example : Value.toText (.tuple [.text "it's", .bool true, .map [(.int 1, .null)]]) =
    "(\"it's\", True, \x7b1: None\x7d)" := by decide +kernel

end Gatehouse
