namespace Gatehouse.Punycode

/-- Letters are the digits below 26. -/
def digit (n : Nat) : Char := if n < 26 then Char.ofNat (97 + n) else Char.ofNat (22 + n)

/-- The least value with which a digit at a position is not the last one. -/
def threshold (bias position : Nat) : Nat := min 26 (max 1 (position - bias))

theorem threshold_pos (bias position : Nat) : 0 < threshold bias position := by
  simp only [threshold]; omega

/-- A distance, from its lowest digit on. The range of a digit depends on its position. -/
def writeStep (bias position n : Nat) : List Char :=
  let t := threshold bias position
  if n < t then [digit n]
  else digit (t + (n - t) % (36 - t)) :: writeStep bias (position + 36) ((n - t) / (36 - t))
termination_by n
decreasing_by
  have hpos := threshold_pos bias position
  have hle := Nat.div_le_self (n - threshold bias position) (36 - threshold bias position)
  omega

/-- How often a distance has to be divided by 35 to be at most 455, and what is left of it. -/
def reduce (n : Nat) : Nat × Nat :=
  if 455 < n then
    let (times, left) := reduce (n / 35)
    (times + 1, left)
  else (0, n)

/-- The bias after a distance, from its size and the length of the text so far. -/
def adapt (n length : Nat) (first : Bool) : Nat :=
  let n := if first then n / 700 else n / 2
  let (times, left) := reduce (n + n / length)
  36 * times + 36 * left / (left + 38)

/-- Distances one after the other. The text grows by a character with each. -/
def writeSteps (bias length : Nat) (first : Bool) : List Nat → List Char
  | [] => []
  | n :: more =>
    writeStep bias 36 n ++ writeSteps (adapt n (length + 1) first) (length + 1) false more

/-- A character by its number, and how many characters stand before it once it is inserted. -/
structure Insertion where
  number : Nat
  place : Nat

namespace Insertion

/-- The distances between insertions, where the next one could be at a place, of a number, in a text
of some length. A number has one place more than the text has characters. -/
def steps (number place length : Nat) : List Insertion → List Nat
  | [] => []
  | i :: more =>
    let step := (i.number - number) * (length + 1) + i.place - place
    step :: steps i.number (i.place + 1) (length + 1) more

end Insertion

def isPlain (c : Char) : Bool := c.toNat < 0x80

/-- The insertions behind the start of a text, which is given in reverse. Characters with a greater
number come later. -/
def insertionsAfter (before : List Char) : List Char → List Insertion
  | [] => []
  | c :: rest =>
    let more := insertionsAfter (c :: before) rest
    if isPlain c then more else ⟨c.toNat, before.countP (·.toNat ≤ c.toNat)⟩ :: more

/-- The insertions by number, and those of one number by place. -/
def insertions (cs : List Char) : List Insertion :=
  (insertionsAfter [] cs).mergeSort fun i j => i.number ≤ j.number

def encode (cs : List Char) : List Char :=
  let plain := cs.filter isPlain
  let steps := Insertion.steps 0x80 0 plain.length (insertions cs)
  let digits := writeSteps 72 plain.length true steps
  if plain.isEmpty then digits else plain ++ '-' :: digits

example : encode "bücher".toList = "bcher-kva".toList ∧ encode ['\u05D0'] = "4db".toList := by
  decide +kernel

end Gatehouse.Punycode
