import Gatehouse.Number.Binary64

namespace Gatehouse.Binary64

/-- The decimal `digits · 10^power`. -/
structure Decimal where
  digits : Nat
  power : Int
  deriving DecidableEq, Repr

/-- The reals that round to a finite number, in quarter units; the ends belong to it or not. -/
structure Interval where
  low : Nat
  high : Nat
  closed : Bool

/-- Half way to each neighbour. Below a power of two the neighbours lie twice as close. -/
def interval (units : Nat) : Interval :=
  let step := spacing units
  let below := if 1 < step ∧ units = Nat.pow 2 units.log2 then step else 2 * step
  { low := 4 * units - below, high := 4 * units + 2 * step, closed := units / step % 2 = 0 }

/-- Whether `d` lies in the interval. Both sides are scaled by the same powers of ten. -/
def Interval.holds (i : Interval) (d : Decimal) : Bool :=
  let point := d.digits * Nat.pow 10 d.power.toNat * (4 * one)
  let scale := Nat.pow 10 (-d.power).toNat
  if i.closed then i.low * scale ≤ point && point ≤ i.high * scale
  else i.low * scale < point && point < i.high * scale

/-- The power of ten of the first significant digit of a positive number. -/
def leadingPower (units : Nat) : Int :=
  if one ≤ units then (Nat.toDigits 10 (units / one)).length - 1
  else -((Nat.toDigits 10 ((one + units - 1) / units - 1)).length : Int)

/-- The better of the two neighbours of the number among the multiples of `10^power`, if any of them
lies in the interval. -/
def candidate? (units : Nat) (power : Int) : Option Decimal :=
  let num := units * Nat.pow 10 (-power).toNat
  let den := one * Nat.pow 10 power.toNat
  let down : Decimal := ⟨num / den, power⟩
  let up : Decimal := ⟨num / den + 1, power⟩
  let i := interval units
  match i.holds down, i.holds up with
  | true, true => some ⟨roundHalfEven num den, power⟩
  | true, false => some down
  | false, true => some up
  | false, false => none

/-- Tries one digit, two digits and so on. Seventeen always suffice. -/
def shortest (units : Nat) : Decimal :=
  let top := leadingPower units
  let best := (List.range 17).findSome? fun (n : Nat) => candidate? units (top - n)
  best.getD ⟨units, 0⟩

/-- How a decimal is laid out: positional for leading powers from `least` up to but not including
`beyond`, and otherwise with one digit before the point and an exponent of at least `exponentDigits`
digits after `mark`. -/
structure Layout where
  least : Int
  beyond : Int
  mark : Char
  exponentDigits : Nat
  wholeTail : List Char
  infinity : List Char
  notNumber : List Char

def zeros (n : Nat) : List Char := List.replicate n '0'

/-- Digits with a point `whole` places from the left; `whole` may lie outside the digits. -/
def positional (layout : Layout) (ds : List Char) (whole : Int) : List Char :=
  if whole ≤ 0 then '0' :: '.' :: zeros (-whole).toNat ++ ds
  else if ds.length ≤ whole.toNat then ds ++ zeros (whole.toNat - ds.length) ++ layout.wholeTail
  else ds.take whole.toNat ++ '.' :: ds.drop whole.toNat

def scientific (layout : Layout) (ds : List Char) (power : Int) : List Char :=
  let exponent := Nat.toDigits 10 power.natAbs
  let padded := zeros (layout.exponentDigits - exponent.length) ++ exponent
  let point := if ds.length ≤ 1 then [] else ['.']
  ds.take 1 ++ point ++ ds.drop 1 ++ layout.mark :: (if power < 0 then '-' else '+') :: padded

/-- The digits of a decimal without the zeros at its end. -/
def significantDigits (d : Decimal) : List Char :=
  ((Nat.toDigits 10 d.digits).reverse.dropWhile (· = '0')).reverse

/-- The written form of a number. -/
def write (layout : Layout) : Binary64 → List Char
  | .undefined => layout.notNumber
  | .infinite negative => (if negative then ['-'] else []) ++ layout.infinity
  | .finite negative 0 => (if negative then ['-'] else []) ++ '0' :: layout.wholeTail
  | .finite negative units =>
    let d := shortest units
    let power := d.power + (Nat.toDigits 10 d.digits).length - 1
    let ds := significantDigits d
    let body :=
      if layout.least ≤ power ∧ power < layout.beyond then positional layout ds (power + 1)
      else scientific layout ds power
    (if negative then ['-'] else []) ++ body

end Gatehouse.Binary64
