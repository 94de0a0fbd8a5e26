namespace Gatehouse.Hex

def value? (c : Char) : Option Nat :=
  if '0' ≤ c ∧ c ≤ '9' then some (c.toNat - 48)
  else if 'A' ≤ c ∧ c ≤ 'F' then some (c.toNat - 55)
  else if 'a' ≤ c ∧ c ≤ 'f' then some (c.toNat - 87)
  else none

def upper (n : Nat) : Char :=
  if n < 10 then Char.ofNat (48 + n) else Char.ofNat (55 + n)

def lower (n : Nat) : Char :=
  if n < 10 then Char.ofNat (48 + n) else Char.ofNat (87 + n)

/-- The lowest `width` digits of a number. -/
def fixed : Nat → Nat → List Char
  | 0, _ => []
  | width + 1, n => fixed width (n / 16) ++ [lower (n % 16)]

/-- Two digits for one octet. -/
def octet? (high low : Char) : Option UInt8 :=
  match value? high, value? low with
  | some h, some l => some (UInt8.ofNat (16 * h + l))
  | _, _ => none

def writeOctet (b : UInt8) : List Char := [lower (b.toNat / 16), lower (b.toNat % 16)]

/-- Octets written side by side. -/
def write (bytes : List UInt8) : List Char := bytes.flatMap writeOctet

def read? : List Char → Option (List UInt8)
  | [] => some []
  | h :: l :: rest =>
    match octet? h l, read? rest with
    | some b, some bs => some (b :: bs)
    | _, _ => none
  | [_] => none

theorem value?_upper {n : Nat} (h : n < 16) : value? (upper n) = some n := by
  have : ∀ m : Fin 16, value? (upper m) = some m.val := by decide
  exact this ⟨n, h⟩

end Gatehouse.Hex
