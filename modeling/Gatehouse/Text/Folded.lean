import Gatehouse.Text.Cut
import Gatehouse.Text.Folded.Table
import Gatehouse.Text.Hex

namespace Gatehouse.Folded

/-- A run of variants, and what the first of them is a variant of. -/
structure Variants where
  first : Nat
  count : Nat
  distance : Nat
  forms : List Nat
  deriving Repr

namespace Variants

/-- How far a character is into the run, if it is one of it. -/
def offset? (v : Variants) (n : Nat) : Option Nat :=
  let offset := n - v.first
  if v.first ≤ n ∧ offset < v.count * v.distance ∧ offset % v.distance = 0 then some offset
  else none

/-- What a character of the run is a variant of. -/
def formsOf? (v : Variants) (n : Nat) : Option (List Char) :=
  (v.offset? n).map fun offset => v.forms.map fun form => Char.ofNat (form + offset)

def readNumber (cs : List Char) : Nat :=
  cs.foldl (fun n c => 16 * n + (Hex.value? c).getD 0) 0

def readNumbers (sep : Char) (cs : List Char) : List Nat :=
  if cs.isEmpty then [] else (Text.splitAt sep cs).map readNumber

def read (cs : List Char) : Variants :=
  let (run, forms) := Text.cutAt ':' cs
  let forms := readNumbers '.' (forms.getD [])
  match readNumbers '-' run with
  | [first, count, distance] => ⟨first, count, distance, forms⟩
  | [first, count] => ⟨first, count, 1, forms⟩
  | first :: _ => ⟨first, 1, 1, forms⟩
  | [] => ⟨0, 0, 1, []⟩

end Variants

def variants : List Variants :=
  variantLines.flatMap fun line => (Text.splitAt ' ' line.toList).map Variants.read

/-- The syllables that are made of parts: a consonant, a vowel and perhaps a last consonant. -/
structure Syllable where
  initial : Nat
  vowel : Nat
  final : Nat
  deriving DecidableEq, Repr

namespace Syllable

def firstInitial : Nat := 0x1100
def firstVowel : Nat := 0x1161
/-- The number before the one of the first last consonant. -/
def noFinal : Nat := 0x11A7
def firstSyllable : Nat := 0xAC00
def initials : Nat := 19
def vowels : Nat := 21
def finals : Nat := 28

def count : Nat := initials * vowels * finals

def toNat (s : Syllable) : Nat := firstSyllable + (s.initial * vowels + s.vowel) * finals + s.final

def ofNat? (n : Nat) : Option Syllable :=
  if firstSyllable ≤ n ∧ n < firstSyllable + count then
    let i := n - firstSyllable
    some ⟨i / finals / vowels, i / finals % vowels, i % finals⟩
  else none

/-- The parts as characters of their own. -/
def parts (s : Syllable) : List Char :=
  let final := if s.final = 0 then [] else [Char.ofNat (noFinal + s.final)]
  Char.ofNat (firstInitial + s.initial) :: Char.ofNat (firstVowel + s.vowel) :: final

/-- The syllable of a consonant and a vowel. -/
def open? (a b : Nat) : Option Syllable :=
  if firstInitial ≤ a ∧ a < firstInitial + initials ∧ firstVowel ≤ b ∧ b < firstVowel + vowels then
    some ⟨a - firstInitial, b - firstVowel, 0⟩
  else none

/-- A syllable with a last consonant. -/
def closed? (a b : Nat) : Option Syllable :=
  if noFinal < b ∧ b < noFinal + finals then
    match ofNat? a with
    | some ⟨initial, vowel, 0⟩ => some ⟨initial, vowel, b - noFinal⟩
    | _ => none
  else none

end Syllable

/-- What a character is replaced by, with all its marks apart. -/
def fold (c : Char) : List Char :=
  match Syllable.ofNat? c.toNat with
  | some s => s.parts
  | none => (variants.findSome? fun v => v.formsOf? c.toNat).getD [c]

/-- The place of a mark; zero for characters that are none. -/
def place (c : Char) : Nat :=
  let n := c.toNat
  ((places.find? fun (first, last, _) => first ≤ n && n ≤ last).map fun (_, _, p) => p).getD 0

/-- Puts a mark among the marks at the end of a text, which stands in reverse. Marks of one place
keep their order. -/
def insertMark (c : Char) : List Char → List Char
  | [] => [c]
  | d :: rest =>
    if place c ≠ 0 ∧ place c < place d then d :: insertMark c rest else c :: d :: rest

/-- The text with its marks in order. -/
def arrange (cs : List Char) : List Char := (cs.foldl (fun done c => insertMark c done) []).reverse

/-- The character that stands for two. -/
def join? (a b : Char) : Option Char :=
  let pair := joins.find? fun (base, mark, _) => base = a.toNat && mark = b.toNat
  match pair with
  | some (_, _, both) => some (Char.ofNat both)
  | none =>
    let syllable := (Syllable.open? a.toNat b.toNat).orElse fun _ =>
      Syllable.closed? a.toNat b.toNat
    syllable.map fun s => Char.ofNat s.toNat

/-- Joins a character with what follows it. Marks that stay apart, in reverse, hide later ones of
the same place, and any of them hides a character that is no mark. -/
def joinFrom (base : Char) (marks : List Char) : List Char → List Char
  | [] => base :: marks.reverse
  | c :: rest =>
    let hidden := match marks with
      | [] => false
      | d :: _ => place c ≤ place d
    match if hidden then none else join? base c with
    | some both => joinFrom both marks rest
    | none =>
      if place c = 0 then base :: marks.reverse ++ joinFrom c [] rest
      else joinFrom base (c :: marks) rest

def joined : List Char → List Char
  | [] => []
  | c :: rest => if place c = 0 then joinFrom c [] rest else c :: joined rest

def ofChars (cs : List Char) : List Char := joined (arrange (cs.flatMap fold))

end Gatehouse.Folded
