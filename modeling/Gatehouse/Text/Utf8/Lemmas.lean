import Gatehouse.Text.Utf8

namespace Gatehouse.Utf8

theorem toNat_ofNat_of_lt {n : Nat} (h : n < 256) : (UInt8.ofNat n).toNat = n := by
  simp [UInt8.toNat_ofNat', Nat.mod_eq_of_lt h]

/-- The first 128 characters are one octet each. -/
theorem encodeChar_of_lt {c : Char} (h : c.toNat < 0x80) :
    String.utf8EncodeChar c = [UInt8.ofNat c.toNat] := by
  have hle : c.val.toNat ≤ 127 := Nat.le_of_lt_succ h
  rw [String.utf8EncodeChar]
  exact if_pos hle

theorem feed_cons (begun : Option Begun) (b : UInt8) (rest : List UInt8) :
    feed begun (b :: rest) =
      ((advance begun b).1 ++ (feed (advance begun b).2 rest).1,
        (feed (advance begun b).2 rest).2) :=
  rfl

theorem feed_append (begun : Option Begun) (front rest : List UInt8) :
    feed begun (front ++ rest) =
      ((feed begun front).1 ++ (feed (feed begun front).2 rest).1,
        (feed (feed begun front).2 rest).2) := by
  induction front generalizing begun with
  | nil => rfl
  | cons b front ih => simp [feed_cons, ih]

/-- An octet within the bounds ends a character that owes no more. -/
theorem advance_last {p : Begun} {n : Nat} (hn : n < 256) (low : p.low.toNat ≤ n)
    (high : n ≤ p.high.toNat) (owed : p.owed = 0) :
    advance (some p) (UInt8.ofNat n) = ([.char (Char.ofNat (p.bits * 64 + (n - 0x80)))], none) := by
  have e := toNat_ofNat_of_lt hn
  have h : p.low ≤ UInt8.ofNat n ∧ UInt8.ofNat n ≤ p.high :=
    ⟨UInt8.le_iff_toNat_le.mpr (by omega), UInt8.le_iff_toNat_le.mpr (by omega)⟩
  simp [advance, h, owed, e]

/-- An octet within the bounds adds its six bits to a character that owes more. -/
theorem advance_more {p : Begun} {n k : Nat} (hn : n < 256) (low : p.low.toNat ≤ n)
    (high : n ≤ p.high.toNat) (h : p.owed = k + 1) :
    advance (some p) (UInt8.ofNat n) =
      ([], some ⟨p.seen ++ [UInt8.ofNat n], p.bits * 64 + (n - 0x80), k, 0x80, 0xBF⟩) := by
  have e := toNat_ofNat_of_lt hn
  have hb : p.low ≤ UInt8.ofNat n ∧ UInt8.ofNat n ≤ p.high :=
    ⟨UInt8.le_iff_toNat_le.mpr (by omega), UInt8.le_iff_toNat_le.mpr (by omega)⟩
  simp [advance, hb, h, e]

theorem feed_encodeChar (c : Char) : feed none (String.utf8EncodeChar c) = ([.char c], none) := by
  have valid := c.valid
  have hc : Char.ofNat c.val.toNat = c := Char.ofNat_toNat c
  simp only [UInt32.isValidChar, Nat.isValidChar] at valid
  generalize hn : c.val.toNat = n at valid hc
  unfold String.utf8EncodeChar
  simp only [hn]
  split
  next h =>
    have e := toNat_ofNat_of_lt (show n < 256 by omega)
    simp [feed, advance, start, e, show n < 128 by omega, hc]
  next h₁ =>
  split
  next h₂ =>
    have e := toNat_ofNat_of_lt (show n / 64 % 32 + 192 < 256 by omega)
    rw [feed_cons, advance, start]
    simp only [e]
    rw [if_neg (by omega), if_neg (by omega), if_pos (by omega), feed_cons,
      advance_last (by omega) (by simp) (by simp; omega) rfl]
    rw [show (n / 64 % 32 + 192 - 0xC0) * 64 + (n % 64 + 128 - 0x80) = n by omega, hc]
    rfl
  next h₂ =>
  split
  next h₃ =>
    have e := toNat_ofNat_of_lt (show n / 4096 % 16 + 224 < 256 by omega)
    rw [feed_cons, advance, start]
    simp only [e]
    rw [if_neg (by omega), if_neg (by omega), if_neg (by omega), if_pos (by omega), feed_cons,
      advance_more (k := 0) (by omega) (by dsimp only; split <;> simp; omega)
        (by dsimp only; split <;> simp <;> omega) rfl,
      feed_cons, advance_last (by omega) (by simp) (by simp; omega) rfl]
    rw [show ((n / 4096 % 16 + 224 - 0xE0) * 64 + (n / 64 % 64 + 128 - 0x80)) * 64 +
      (n % 64 + 128 - 0x80) = n by omega, hc]
    rfl
  next h₃ =>
    have e := toNat_ofNat_of_lt (show n / 262144 % 8 + 240 < 256 by omega)
    rw [feed_cons, advance, start]
    simp only [e]
    rw [if_neg (by omega), if_neg (by omega), if_neg (by omega), if_neg (by omega),
      if_pos (by omega), feed_cons,
      advance_more (k := 1) (by omega) (by dsimp only; split <;> simp; omega)
        (by dsimp only; split <;> simp <;> omega) rfl,
      feed_cons, advance_more (k := 0) (by omega) (by simp) (by simp; omega) rfl,
      feed_cons, advance_last (by omega) (by simp) (by simp; omega) rfl]
    rw [show (((n / 262144 % 8 + 240 - 0xF0) * 64 + (n / 4096 % 64 + 128 - 0x80)) * 64 +
      (n / 64 % 64 + 128 - 0x80)) * 64 + (n % 64 + 128 - 0x80) = n by omega, hc]
    rfl

theorem feed_encode (cs : List Char) : feed none (encode cs) = (cs.map .char, none) := by
  induction cs with
  | nil => rfl
  | cons c cs ih =>
    rw [encode, List.flatMap_cons, feed_append, feed_encodeChar, ← encode, ih]
    rfl

/-- The pieces of encoded characters are those characters. -/
theorem cut_encode (cs : List Char) : cut (encode cs) = cs.map .char := by
  simp [cut, feed_encode, finish]

theorem all?_map_char (cs : List Char) : Piece.all? (cs.map .char) = some cs := by
  induction cs with
  | nil => rfl
  | cons c cs ih => simp [Piece.all?, ih]

theorem decode?_encode (cs : List Char) : decode? (encode cs) = some cs := by
  rw [decode?, cut_encode, all?_map_char]

theorem encode_injective {cs ds : List Char} (h : encode cs = encode ds) : cs = ds := by
  have := decode?_encode cs
  rw [h, decode?_encode] at this
  exact (Option.some.inj this).symm

end Gatehouse.Utf8
