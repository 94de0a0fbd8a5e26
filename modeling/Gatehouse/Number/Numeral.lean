import Gatehouse.Number.Binary64

namespace Gatehouse

structure Numeral where
  negative : Bool
  whole : List Char
  fraction : List Char
  power : Int
  /-- Written with neither fraction nor power. -/
  isWhole : Bool

namespace Numeral

def natOfDigits (ds : List Char) : Nat :=
  ds.foldl (fun n d => 10 * n + (d.toNat - 48)) 0

/-- Takes the digits at the start of a text; there must be one. -/
def takeDigits? (cs : List Char) : Option (List Char × List Char) :=
  let ds := cs.takeWhile Char.isDigit
  if ds.isEmpty then none else some (ds, cs.dropWhile Char.isDigit)

/-- The whole part: a zero stands alone. -/
def takeWhole? : List Char → Option (List Char × List Char)
  | '0' :: rest => some (['0'], rest)
  | cs => takeDigits? cs

/-- A point counts only with a digit after it. -/
def takeFraction : List Char → Option (List Char) × List Char
  | '.' :: rest =>
    match takeDigits? rest with
    | some (ds, rest) => (some ds, rest)
    | none => (none, '.' :: rest)
  | cs => (none, cs)

/-- A sign and the digits of a power. -/
def takeSigned? : List Char → Option (Int × List Char)
  | '-' :: rest => (takeDigits? rest).map fun (ds, rest) => (-(natOfDigits ds : Int), rest)
  | '+' :: rest => (takeDigits? rest).map fun (ds, rest) => ((natOfDigits ds : Int), rest)
  | cs => (takeDigits? cs).map fun (ds, rest) => ((natOfDigits ds : Int), rest)

/-- An exponent mark counts only with a digit after it. -/
def takePower : List Char → Option Int × List Char
  | c :: rest =>
    if c = 'e' ∨ c = 'E' then
      match takeSigned? rest with
      | some (n, rest) => (some n, rest)
      | none => (none, c :: rest)
    else (none, c :: rest)
  | [] => (none, [])

/-- Reads the longest numeral at the start of a text. -/
def read? (cs : List Char) : Option (Numeral × List Char) :=
  let (negative, cs) := match cs with
    | '-' :: rest => (true, rest)
    | cs => (false, cs)
  match takeWhole? cs with
  | none => none
  | some (whole, rest) =>
    let (frac, rest) := takeFraction rest
    let (pow, rest) := takePower rest
    some ({ negative, whole, fraction := frac.getD [], power := pow.getD 0,
            isWhole := frac.isNone && pow.isNone }, rest)

def toInt (n : Numeral) : Int :=
  let size : Int := natOfDigits n.whole
  if n.negative then -size else size

def toBinary64 (n : Numeral) : Binary64 :=
  Binary64.ofDecimal n.negative (natOfDigits (n.whole ++ n.fraction)) (n.power - n.fraction.length)

end Numeral

end Gatehouse
