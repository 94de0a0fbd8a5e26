namespace Gatehouse.Letter

def capital (c : Char) : List Char :=
  match c with
  | 'ı' => ['I']
  | 'ſ' => ['S']
  | 'ﬅ' | 'ﬆ' => ['S', 'T']
  | c => [c.toUpper]

def small (c : Char) : Char := if c = '\u212A' then 'k' else c.toLower

/-- A word in capitals. -/
def capitals (cs : List Char) : List Char := cs.flatMap capital

/-- A word with a capital at its start and small letters after it. -/
def titled : List Char → List Char
  | [] => []
  | c :: rest => (capital c).take 1 ++ ((capital c).drop 1 ++ rest).map Char.toLower

/-- The letters and digits by their numbers. -/
theorem isAlphanum_iff {c : Char} : c.isAlphanum ↔
    (65 ≤ c.toNat ∧ c.toNat ≤ 90) ∨ (97 ≤ c.toNat ∧ c.toNat ≤ 122) ∨
      (48 ≤ c.toNat ∧ c.toNat ≤ 57) := by
  have hupper : c.isUpper ↔ 65 ≤ c.toNat ∧ c.toNat ≤ 90 := by
    have : c.isUpper = decide ('A'.val ≤ c.val ∧ c.val ≤ 'Z'.val) := rfl
    rw [this, decide_eq_true_iff, UInt32.le_iff_toNat_le, UInt32.le_iff_toNat_le]
    rfl
  have hlower : c.isLower ↔ 97 ≤ c.toNat ∧ c.toNat ≤ 122 := by
    have : c.isLower = (decide ('a'.val ≤ c.val) && decide (c.val ≤ 'z'.val)) := rfl
    rw [this, Bool.and_eq_true, decide_eq_true_iff, decide_eq_true_iff, UInt32.le_iff_toNat_le,
      UInt32.le_iff_toNat_le]
    rfl
  have hall : c.isAlphanum = (c.isUpper || c.isLower || c.isDigit) := rfl
  rw [hall, Bool.or_eq_true, Bool.or_eq_true, hupper, hlower, Char.isDigit_iff_toNat, or_assoc]
  rfl

example : capitals "poſt".toList = "POST".toList ∧ titled "lAX".toList = "Lax".toList := by decide

end Gatehouse.Letter
