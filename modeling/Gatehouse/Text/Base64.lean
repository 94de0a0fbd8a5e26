namespace Gatehouse.Base64

def value? (c : Char) : Option Nat :=
  if 'A' ≤ c ∧ c ≤ 'Z' then some (c.toNat - 65)
  else if 'a' ≤ c ∧ c ≤ 'z' then some (c.toNat - 71)
  else if '0' ≤ c ∧ c ≤ '9' then some (c.toNat + 4)
  else if c = '+' then some 62
  else if c = '/' then some 63
  else none

def digit (n : Nat) : Char :=
  if n < 26 then Char.ofNat (65 + n)
  else if n < 52 then Char.ofNat (71 + n)
  else if n < 62 then Char.ofNat (n - 4)
  else if n = 62 then '+' else '/'

def octet (n : Nat) : UInt8 := UInt8.ofNat n

/-- Three octets are four digits; one or two octets at the end are padded. -/
def encode : List UInt8 → List Char
  | [] => []
  | [a] =>
    [digit (a.toNat / 4), digit (a.toNat % 4 * 16), '=', '=']
  | [a, b] =>
    [digit (a.toNat / 4), digit (a.toNat % 4 * 16 + b.toNat / 16), digit (b.toNat % 16 * 4), '=']
  | a :: b :: c :: rest =>
    digit (a.toNat / 4) :: digit (a.toNat % 4 * 16 + b.toNat / 16) ::
      digit (b.toNat % 16 * 4 + c.toNat / 64) :: digit (c.toNat % 64) :: encode rest

/-- One octet from two digits; the four bits left over are ignored. -/
def octet₁ (a b : Nat) : UInt8 := octet (a * 4 + b / 16)

def octet₂ (b c : Nat) : UInt8 := octet (b % 16 * 16 + c / 4)

def octet₃ (c d : Nat) : UInt8 := octet (c % 4 * 64 + d)

def isPad (c : Char) : Bool := c = '='

/-- Reads groups of four characters. Padding has to fill the last group if it lacks digits; if it
has all four, any padding after it is passed over. -/
def decode? : List Char → Option (List UInt8)
  | [] => some []
  | [a, b, '=', '='] => do
    let a ← value? a
    let b ← value? b
    return [octet₁ a b]
  | [a, b, c, '='] => do
    let a ← value? a
    let b ← value? b
    let c ← value? c
    return [octet₁ a b, octet₂ b c]
  | a :: b :: c :: d :: rest => do
    let a ← value? a
    let b ← value? b
    let c ← value? c
    let d ← value? d
    let bytes ← if rest.all isPad then some [] else decode? rest
    return octet₁ a b :: octet₂ b c :: octet₃ c d :: bytes
  | _ => none

theorem value?_digit {n : Nat} (h : n < 64) : value? (digit n) = some n := by
  have : ∀ m : Fin 64, value? (digit m) = some m.val := by decide
  exact this ⟨n, h⟩

theorem digit_ne_pad {n : Nat} (h : n < 64) : digit n ≠ '=' := by
  have : ∀ m : Fin 64, digit m ≠ '=' := by decide
  exact this ⟨n, h⟩

theorem octet_of_eq {n : Nat} {a : UInt8} (h : n = a.toNat) : octet n = a := by
  subst h
  exact UInt8.ofNat_toNat

theorem octet₁_digits (a : UInt8) {x : Nat} (h : x < 16) :
    octet₁ (a.toNat / 4) (a.toNat % 4 * 16 + x) = a :=
  octet_of_eq (by omega)

theorem octet₂_digits (b : UInt8) (x : Nat) {y : Nat} (h : y < 4) :
    octet₂ (x * 16 + b.toNat / 16) (b.toNat % 16 * 4 + y) = b :=
  octet_of_eq (by have := UInt8.toNat_lt b; omega)

theorem octet₃_digits (c : UInt8) (x : Nat) :
    octet₃ (x * 4 + c.toNat / 64) (c.toNat % 64) = c :=
  octet_of_eq (by have := UInt8.toNat_lt c; omega)

/-- Nothing but the empty text is written by padding alone. -/
theorem all_isPad_encode (bs : List UInt8) : (encode bs).all isPad = bs.isEmpty := by
  have first : ∀ a : UInt8, isPad (digit (a.toNat / 4)) = false := fun a => by
    have := UInt8.toNat_lt a
    simpa [isPad] using digit_ne_pad (show a.toNat / 4 < 64 by omega)
  fun_cases encode bs <;> simp [first]

theorem decode?_encode (bs : List UInt8) : decode? (encode bs) = some bs := by
  fun_induction encode bs with
  | case1 => rfl
  | case2 a =>
    have ha := UInt8.toNat_lt a
    have e := octet₁_digits a (show 0 < 16 by omega)
    simp only [Nat.add_zero] at e
    rw [decode?, value?_digit (by omega), value?_digit (by omega)]
    exact congrArg (fun x => some [x]) e
  | case3 a b =>
    have ha := UInt8.toNat_lt a
    have hb := UInt8.toNat_lt b
    have e := octet₂_digits b (a.toNat % 4) (show 0 < 4 by omega)
    simp only [Nat.add_zero] at e
    rw [decode?, value?_digit (by omega), value?_digit (by omega), value?_digit (by omega)]
    · simp only [Option.bind_eq_bind, Option.bind_some]
      rw [octet₁_digits a (by omega), e]
      rfl
    · exact digit_ne_pad (by omega)
  | case4 a b c rest ih =>
    have ha := UInt8.toNat_lt a
    have hb := UInt8.toNat_lt b
    have hc := UInt8.toNat_lt c
    have hd := digit_ne_pad (show c.toNat % 64 < 64 by omega)
    rw [decode?, value?_digit (by omega), value?_digit (by omega), value?_digit (by omega),
      value?_digit (by omega), ih, all_isPad_encode]
    · simp only [Option.bind_eq_bind, Option.bind_some]
      rw [octet₁_digits a (by omega), octet₂_digits b _ (by omega), octet₃_digits]
      cases rest <;> rfl
    · intro _ h
      exact absurd h hd
    · intro h
      exact absurd h hd

end Gatehouse.Base64
