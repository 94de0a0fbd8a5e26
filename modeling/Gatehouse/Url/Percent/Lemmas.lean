import Gatehouse.Text.Utf8.Lemmas
import Gatehouse.Url.Percent

namespace Gatehouse.Percent

theorem octet?_upper (b : UInt8) :
    Hex.octet? (Hex.upper (b.toNat / 16)) (Hex.upper (b.toNat % 16)) = some b := by
  have h := UInt8.toNat_lt b
  rw [Hex.octet?, Hex.value?_upper (by omega), Hex.value?_upper (by omega)]
  simp only [show 16 * (b.toNat / 16) + b.toNat % 16 = b.toNat by omega, UInt8.ofNat_toNat]

theorem tokens_escape_append (b : UInt8) (rest : List Char) :
    tokens (escape b ++ rest) = .octet b :: tokens rest := by
  simp [escape, tokens, octet?_upper]

theorem tokens_flatMap_escape_append (bs : List UInt8) (rest : List Char) :
    tokens (bs.flatMap escape ++ rest) = bs.map .octet ++ tokens rest := by
  induction bs with
  | nil => rfl
  | cons b bs ih => simp [List.flatMap_cons, tokens_escape_append, ih]

theorem tokens_cons_of_ne {c : Char} (h : c ≠ '%') (rest : List Char) :
    tokens (c :: rest) = plain c :: tokens rest := by
  rw [tokens]
  intro _ _ _ hc
  exact absurd hc h

theorem piecesFrom_octets_append (begun : Option Utf8.Begun) (bs : List UInt8)
    (rest : List Token) :
    piecesFrom begun (bs.map .octet ++ rest) =
      (Utf8.feed begun bs).1 ++ piecesFrom (Utf8.feed begun bs).2 rest := by
  induction bs generalizing begun with
  | nil => rfl
  | cons b bs ih => simp [piecesFrom, Utf8.feed_cons, ih]

/-- The octets of a character give that character. -/
theorem piecesFrom_encodeChar_append (c : Char) (rest : List Token) :
    piecesFrom none ((String.utf8EncodeChar c).map .octet ++ rest) =
      .char c :: piecesFrom none rest := by
  rw [piecesFrom_octets_append, Utf8.feed_encodeChar]
  rfl

theorem piecesFrom_plain (c : Char) (rest : List Token) :
    piecesFrom none (plain c :: rest) = .char c :: piecesFrom none rest := by
  unfold plain
  split
  next h =>
    have := piecesFrom_encodeChar_append c rest
    rwa [Utf8.encodeChar_of_lt h] at this
  next => rfl

theorem decode_cons_of_ne {c : Char} (h : c ≠ '%') (cs : List Char) :
    decode (c :: cs) = c :: decode cs := by
  rw [decode, pieces, tokens_cons_of_ne h, piecesFrom_plain]
  rfl

theorem decodePlus_cons_of_ne {c : Char} (hp : c ≠ '%') (hs : c ≠ '+') (cs : List Char) :
    decodePlus (c :: cs) = c :: decodePlus cs := by
  have hsame : plusToSpace c = c := if_neg hs
  rw [decodePlus, List.map_cons, hsame, decode_cons_of_ne hp, decodePlus]

theorem decodePlus_eq_self {cs : List Char} (h : ∀ c ∈ cs, c ≠ '%' ∧ c ≠ '+') :
    decodePlus cs = cs := by
  induction cs with
  | nil => rfl
  | cons c cs ih =>
    obtain ⟨hp, hs⟩ := h c (List.mem_cons_self ..)
    rw [decodePlus_cons_of_ne hp hs, ih fun d hd => h d (List.mem_cons_of_mem _ hd)]

theorem pieces_encodeChar_append {keep : Char → Bool} (h : keep '%' = false) (c : Char)
    (rest : List Char) :
    pieces (encodeChar keep c ++ rest) = .char c :: pieces rest := by
  unfold encodeChar
  split
  next hk =>
    have hc : c ≠ '%' := by
      rintro rfl
      simp [h, isUnreserved] at hk
    rw [pieces, List.singleton_append, tokens_cons_of_ne hc, piecesFrom_plain]
    rfl
  next =>
    rw [pieces, tokens_flatMap_escape_append, piecesFrom_encodeChar_append]
    rfl

theorem pieces_encode {keep : Char → Bool} (h : keep '%' = false) (cs : List Char) :
    pieces (encode keep cs) = cs.map .char := by
  induction cs with
  | nil => rfl
  | cons c cs ih => rw [encode, List.flatMap_cons, pieces_encodeChar_append h, ← encode, ih]; rfl

theorem decode_encode {keep : Char → Bool} (h : keep '%' = false) (cs : List Char) :
    decode (encode keep cs) = cs := by
  rw [decode, pieces_encode h, List.map_map]
  exact List.map_id cs

theorem decodeKeeping_encode {keep : Char → Bool} (h : keep '%' = false) (cs : List Char) :
    decodeKeeping (encode keep cs) = cs := by
  rw [decodeKeeping, pieces_encode h, List.flatMap_map]
  exact List.flatMap_singleton' cs

theorem upper_ne_plus {n : Nat} (h : n < 16) : Hex.upper n ≠ '+' := by
  have : ∀ m : Fin 16, Hex.upper m ≠ '+' := by decide
  exact this ⟨n, h⟩

theorem map_plusToSpace_of_not_mem {cs : List Char} (h : '+' ∉ cs) : cs.map plusToSpace = cs := by
  induction cs with
  | nil => rfl
  | cons c cs ih =>
    simp only [List.mem_cons, not_or] at h
    simp [plusToSpace, Ne.symm h.1, ih h.2]

theorem plus_not_mem_escape (b : UInt8) : '+' ∉ escape b := by
  have h := UInt8.toNat_lt b
  simp only [escape, List.mem_cons, List.not_mem_nil, or_false, not_or]
  exact ⟨by decide, Ne.symm (upper_ne_plus (by omega)), Ne.symm (upper_ne_plus (by omega))⟩

theorem plus_not_mem_encodeChar {keep : Char → Bool} (h : keep '+' = false) (c : Char) :
    '+' ∉ encodeChar keep c := by
  unfold encodeChar
  split
  next hk =>
    intro hm
    rw [← List.mem_singleton.mp hm] at hk
    simp [h, isUnreserved] at hk
  next =>
    intro hm
    obtain ⟨b, _, hb⟩ := List.mem_flatMap.mp hm
    exact plus_not_mem_escape b hb

theorem pieces_encodePlus {keep : Char → Bool} (hp : keep '%' = false) (hs : keep '+' = false)
    (cs : List Char) : pieces ((encodePlus keep cs).map plusToSpace) = cs.map .char := by
  induction cs with
  | nil => rfl
  | cons c cs ih =>
    rw [encodePlus, List.flatMap_cons, List.map_append, ← encodePlus]
    split
    next hc =>
      subst hc
      rw [List.map_singleton, List.singleton_append, pieces, tokens_cons_of_ne (by decide)]
      exact (piecesFrom_plain ' ' _).trans (congrArg _ ih)
    next =>
      rw [map_plusToSpace_of_not_mem (plus_not_mem_encodeChar hs c),
        pieces_encodeChar_append hp, ih]
      rfl

/-- A text comes back from an encoding that keeps neither the percent sign nor the plus. -/
theorem decodePlus_encodePlus {keep : Char → Bool} (hp : keep '%' = false) (hs : keep '+' = false)
    (cs : List Char) : decodePlus (encodePlus keep cs) = cs := by
  rw [decodePlus, decode, pieces_encodePlus hp hs, List.map_map]
  exact List.map_id cs

end Gatehouse.Percent
