import Gatehouse.Number.Numeral
import Gatehouse.Text.Cut
import Gatehouse.Text.Hex

namespace Gatehouse.Ip

/-- A number below 256 without needless zeros. -/
def isOctet (cs : List Char) : Bool :=
  !cs.isEmpty && cs.all Char.isDigit && cs.length ≤ 3 && (cs = ['0'] || cs.head? ≠ some '0') &&
    Numeral.natOfDigits cs ≤ 255

def isV4 (cs : List Char) : Bool :=
  let octets := Text.splitAt '.' cs
  octets.length = 4 && octets.all isOctet

def isGroup (cs : List Char) : Bool :=
  !cs.isEmpty && cs.length ≤ 4 && cs.all fun c => (Hex.value? c).isSome

/-- How many groups the last piece stands for: an address of four numbers stands for two. -/
def lastGroups? (cs : List Char) : Option Nat :=
  if isGroup cs then some 1 else if isV4 cs then some 2 else none

/-- How many groups stand in a part of an address. -/
def groups? : List (List Char) → Option Nat
  | [] => some 0
  | [last] => lastGroups? last
  | piece :: rest => if isGroup piece then (groups? rest).map (· + 1) else none

/-- The parts before and after the first two colons that stand together. -/
def cutAtGap : List Char → List Char × Option (List Char)
  | ':' :: ':' :: rest => ([], some rest)
  | [] => ([], none)
  | c :: rest =>
    let (before, after) := cutAtGap rest
    (c :: before, after)

def pieces (cs : List Char) : List (List Char) :=
  if cs.isEmpty then [] else Text.splitAt ':' cs

/-- Eight groups, or at most seven of them around a gap; before the gap no address of four numbers
may stand. -/
def isGroups (cs : List Char) : Bool :=
  match cutAtGap cs with
  | (all, none) => groups? (pieces all) = some 8
  | (before, some after) =>
    match groups? (pieces after) with
    | some n => (pieces before).all isGroup && (pieces before).length + n ≤ 7
    | none => false

/-- The groups may be followed by a percent sign and the name of a zone. -/
def isV6 (cs : List Char) : Bool :=
  match Text.cutAt '%' cs with
  | (groups, none) => isGroups groups
  | (groups, some zone) => isGroups groups && !zone.isEmpty && !zone.contains '%'

example : isV6 "::1".toList ∧ isV6 "fe80::1%eth0".toList ∧ isV6 "::ffff:1.2.3.4".toList := by
  decide

example : isV6 "1::2::3".toList = false ∧ isV6 "1:2".toList = false := by decide

example : isV4 "1.2.3.04".toList = false := by decide

end Gatehouse.Ip
