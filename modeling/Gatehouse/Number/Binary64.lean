namespace Gatehouse

inductive Binary64 where
  | finite (negative : Bool) (units : Nat)
  | infinite (negative : Bool)
  | undefined
  deriving DecidableEq, Repr

namespace Binary64

/-- How many units make the number one. -/
def one : Nat := Nat.pow 2 1074

/-- The distance between neighbouring numbers of this size: 53 significant bits, one unit at
least. -/
def spacing (units : Nat) : Nat := Nat.pow 2 (units.log2 - 52)

/-- The nearest whole number to `num / den`; a half goes to the even neighbour. -/
def roundHalfEven (num den : Nat) : Nat :=
  let down := num / den
  let twice := 2 * (num % den)
  if twice < den then down
  else if den < twice then down + 1
  else if down % 2 = 0 then down else down + 1

/-- The number of the format nearest to `num / den`; from 2¹⁰²⁴ on it is infinite. -/
def ofRatio (negative : Bool) (num den : Nat) : Binary64 :=
  let step := spacing (num * one / den)
  let units := roundHalfEven (num * one) (den * step) * step
  if units < one * Nat.pow 2 1024 then .finite negative units else .infinite negative

/-- The number nearest to `digits · 10^power`. Powers far outside the format's range are settled
without being computed. -/
def ofDecimal (negative : Bool) (digits : Nat) (power : Int) : Binary64 :=
  let places := (Nat.toDigits 10 digits).length
  if digits = 0 then .finite negative 0
  else if (places : Int) + power > 400 then .infinite negative
  else if (places : Int) + power < -400 then .finite negative 0
  else ofRatio negative (digits * Nat.pow 10 power.toNat) (Nat.pow 10 (-power).toNat)

/-- A zero of either sign. -/
def isZero : Binary64 → Bool
  | .finite _ 0 => true
  | _ => false

end Binary64

end Gatehouse
