import Gatehouse.Url.Location
import Gatehouse.Url.Query.Lemmas

namespace Gatehouse

namespace Utf8

/-- What has begun waits for an octet that begins no character of more than one octet. -/
def IsWaiting (begun : Option Begun) : Prop := ∀ p, begun = some p → p.high < 0xC0

theorem isWaiting_start (b : UInt8) : IsWaiting (start b).2 := by
  intro p hp
  unfold start at hp
  dsimp only at hp
  split at hp
  next => simp at hp
  next =>
    split at hp
    next => simp at hp
    next =>
      split at hp
      next =>
        obtain rfl := Option.some.inj hp
        dsimp only
        decide
      next =>
        split at hp
        next =>
          obtain rfl := Option.some.inj hp
          dsimp only
          split <;> decide
        next =>
          split at hp
          next =>
            obtain rfl := Option.some.inj hp
            dsimp only
            split <;> decide
          next => simp at hp

theorem isWaiting_advance (begun : Option Begun) (b : UInt8) : IsWaiting (advance begun b).2 := by
  cases begun with
  | none => exact isWaiting_start b
  | some p =>
    unfold advance
    dsimp only
    split
    next =>
      split
      next => exact fun q hq => by simp at hq
      next =>
        intro q hq
        obtain rfl := Option.some.inj hq
        dsimp only
        decide
    next => exact isWaiting_start b

/-- An octet that begins a character of more than one octet ends what had begun. -/
theorem advance_of_isWaiting {begun : Option Begun} (h : IsWaiting begun) {b : UInt8}
    (hb : 0xC0 ≤ b) : advance begun b = (finish begun ++ (start b).1, (start b).2) := by
  cases begun with
  | none => rfl
  | some p =>
    have hhigh := h p rfl
    have hnot : ¬ (p.low ≤ b ∧ b ≤ p.high) := by
      rintro ⟨_, hle⟩
      have := UInt8.lt_of_le_of_lt (UInt8.le_trans hb hle) hhigh
      exact absurd this (by decide)
    simp [advance, hnot, finish]

/-- The first octet of a character past the first 128. -/
theorem exists_lead {c : Char} (h : 0x80 ≤ c.toNat) :
    ∃ b rest, String.utf8EncodeChar c = b :: rest ∧ 0xC0 ≤ b := by
  have hvalid := c.valid
  simp only [UInt32.isValidChar, Nat.isValidChar] at hvalid
  have hn : 0x80 ≤ c.val.toNat := h
  have hlead : ∀ n : Nat, 0xC0 ≤ n → n < 256 → (0xC0 : UInt8) ≤ UInt8.ofNat n := by
    intro n hle hlt
    rw [UInt8.le_iff_toNat_le, toNat_ofNat_of_lt hlt]
    exact hle
  unfold String.utf8EncodeChar
  dsimp only
  split
  next hle => omega
  next =>
    split
    next => exact ⟨_, _, rfl, hlead _ (by omega) (by omega)⟩
    next =>
      split
      next => exact ⟨_, _, rfl, hlead _ (by omega) (by omega)⟩
      next => exact ⟨_, _, rfl, hlead _ (by omega) (by omega)⟩

end Utf8

namespace Percent

open Utf8 (IsWaiting)

/-- The octets of a character are read as the character itself, whatever had begun before. -/
theorem piecesFrom_octets {begun : Option Utf8.Begun} (h : IsWaiting begun) (c : Char)
    (rest : List Token) :
    piecesFrom begun ((String.utf8EncodeChar c).map .octet ++ rest) =
      piecesFrom begun (plain c :: rest) := by
  unfold plain
  split
  next hc =>
    rw [Utf8.encodeChar_of_lt hc]
    rfl
  next hc =>
    obtain ⟨b, more, hb, hlead⟩ := Utf8.exists_lead (c := c) (by omega)
    have hnone := piecesFrom_encodeChar_append c rest
    rw [hb, List.map_cons, List.cons_append, piecesFrom, Utf8.advance] at hnone
    rw [hb, List.map_cons, List.cons_append, piecesFrom, Utf8.advance_of_isWaiting h hlead]
    dsimp only at hnone ⊢
    rw [List.append_assoc, hnone]
    rfl

/-- A text, and one in which some of its characters are written as escapes. A percent sign and
hexadecimal digits are not, so that no escape comes or goes. -/
inductive Spelled : List Char → List Char → Prop
  | nil : Spelled [] []
  | same (c : Char) {cs ds : List Char} (h : Spelled cs ds) : Spelled (c :: cs) (c :: ds)
  | escaped {c : Char} (hp : c ≠ '%') (hx : Hex.value? c = none) {cs ds : List Char}
    (h : Spelled cs ds) : Spelled (c :: cs) ((String.utf8EncodeChar c).flatMap escape ++ ds)

theorem escape_flatMap_eq_cons (c : Char) :
    ∃ more, (String.utf8EncodeChar c).flatMap escape = '%' :: more := by
  cases hb : String.utf8EncodeChar c with
  | nil => exact absurd hb (by simp)
  | cons b bs => exact ⟨_, rfl⟩

theorem tokens_percent {cs : List Char} (h : ∀ a b rest, cs = a :: b :: rest →
    Hex.octet? a b = none) : tokens ('%' :: cs) = plain '%' :: tokens cs := by
  match cs with
  | [] => rfl
  | [a] => rfl
  | a :: b :: rest => rw [tokens, h a b rest rfl]

theorem octet?_of_left {a b : Char} (h : Hex.value? a = none) : Hex.octet? a b = none := by
  simp [Hex.octet?, h]

theorem octet?_of_right {a b : Char} (h : Hex.value? b = none) : Hex.octet? a b = none := by
  cases ha : Hex.value? a <;> simp [Hex.octet?, ha, h]

theorem value?_percent : Hex.value? '%' = none := by decide

/-- Behind a percent sign either both texts have the same two hexadecimal digits, or neither has
two. -/
theorem Spelled.percent_cases {cs ds : List Char} (h : Spelled cs ds) :
    (∃ a b cs' ds' o, cs = a :: b :: cs' ∧ ds = a :: b :: ds' ∧ Spelled cs' ds' ∧
      Hex.octet? a b = some o) ∨
    (tokens ('%' :: cs) = plain '%' :: tokens cs ∧
      tokens ('%' :: ds) = plain '%' :: tokens ds) := by
  cases h with
  | nil => exact Or.inr ⟨rfl, rfl⟩
  | @same a cs ds h =>
    cases h with
    | nil => exact Or.inr ⟨rfl, rfl⟩
    | @same b cs ds h =>
      cases ho : Hex.octet? a b with
      | some o => exact Or.inl ⟨a, b, cs, ds, o, rfl, rfl, h, ho⟩
      | none => exact Or.inr ⟨by rw [tokens, ho], by rw [tokens, ho]⟩
    | @escaped b _ hx cs ds h =>
      obtain ⟨more, hmore⟩ := escape_flatMap_eq_cons b
      rw [hmore, List.cons_append]
      exact Or.inr ⟨by rw [tokens, octet?_of_right hx],
        by rw [tokens, octet?_of_right value?_percent]⟩
  | @escaped a _ hx cs ds h =>
    obtain ⟨more, hmore⟩ := escape_flatMap_eq_cons a
    rw [hmore, List.cons_append]
    refine Or.inr ⟨tokens_percent fun a' b rest heq => ?_, tokens_percent fun a' b rest heq => ?_⟩
    · obtain ⟨rfl, _⟩ := List.cons.inj heq
      exact octet?_of_left hx
    · obtain ⟨rfl, _⟩ := List.cons.inj heq
      exact octet?_of_left value?_percent

theorem piecesFrom_cons_congr {xs ys : List Token}
    (h : ∀ begun, IsWaiting begun → piecesFrom begun xs = piecesFrom begun ys) (t : Token)
    (begun : Option Utf8.Begun) : piecesFrom begun (t :: xs) = piecesFrom begun (t :: ys) := by
  cases t with
  | octet b => simp only [piecesFrom, h _ (Utf8.isWaiting_advance begun b)]
  | char c => simp only [piecesFrom, h none fun p hp => by simp at hp]

theorem piecesFrom_spelled {cs ds : List Char} (h : Spelled cs ds) {begun : Option Utf8.Begun}
    (hb : IsWaiting begun) : piecesFrom begun (tokens ds) = piecesFrom begun (tokens cs) := by
  match h with
  | .nil => rfl
  | @Spelled.same c cs ds h =>
    by_cases hc : c = '%'
    · subst hc
      rcases h.percent_cases with ⟨a, b, cs', ds', o, rfl, rfl, hrest, ho⟩ | ⟨hcs, hds⟩
      · simp only [tokens, ho]
        exact piecesFrom_cons_congr (fun _ hb' => piecesFrom_spelled hrest hb') _ _
      · rw [hcs, hds]
        exact piecesFrom_cons_congr (fun _ hb' => piecesFrom_spelled h hb') _ _
    · rw [tokens_cons_of_ne hc, tokens_cons_of_ne hc]
      exact piecesFrom_cons_congr (fun _ hb' => piecesFrom_spelled h hb') _ _
  | @Spelled.escaped c hp _ cs ds h =>
    rw [tokens_flatMap_escape_append, piecesFrom_octets hb, tokens_cons_of_ne hp]
    exact piecesFrom_cons_congr (fun _ hb' => piecesFrom_spelled h hb') _ _
termination_by cs.length

theorem decodeKeeping_spelled {cs ds : List Char} (h : Spelled cs ds) :
    decodeKeeping ds = decodeKeeping cs := by
  rw [decodeKeeping, pieces, piecesFrom_spelled h fun p hp => by simp at hp]
  rfl

theorem value?_of_not_isUnreserved {c : Char} (h : isUnreserved c = false) :
    Hex.value? c = none := by
  have halnum : ¬ c.isAlphanum := by
    simp only [isUnreserved, Bool.or_eq_false_iff] at h
    simp [h.1.1.1.1]
  rw [Letter.isAlphanum_iff, Char.toNat] at halnum
  unfold Hex.value?
  simp only [Char.le_def, UInt32.le_iff_toNat_le, UInt32.reduceToNat, Char.reduceVal]
  rw [if_neg (by omega), if_neg (by omega), if_neg (by omega)]

/-- Where the percent sign and the plus are kept, encoding only spells a text otherwise. -/
theorem spelled_encode {keep : Char → Bool} (hpercent : keep '%' = true) (hplus : keep '+' = true)
    (cs : List Char) : Spelled (cs.map plusToSpace) ((encode keep cs).map plusToSpace) := by
  induction cs with
  | nil => exact .nil
  | cons c cs ih =>
    rw [encode, List.flatMap_cons, List.map_append, ← encode, List.map_cons, encodeChar]
    split
    next => exact .same _ ih
    next hk =>
      simp only [Bool.or_eq_true, not_or, Bool.not_eq_true] at hk
      have hc : c ≠ '%' := by
        rintro rfl
        simp [hpercent] at hk
      have hp : plusToSpace c = c := by
        unfold plusToSpace
        split
        next heq =>
          subst heq
          simp [hplus] at hk
        next => rfl
      have hescape : '+' ∉ (String.utf8EncodeChar c).flatMap escape := by
        intro hm
        obtain ⟨b, _, hb⟩ := List.mem_flatMap.mp hm
        exact plus_not_mem_escape b hb
      rw [map_plusToSpace_of_not_mem hescape, hp]
      exact .escaped hc (value?_of_not_isUnreserved hk.1) ih

theorem mem_escapes {bytes : List UInt8} {d : Char} (h : d ∈ bytes.flatMap escape) :
    isUnreserved d ∨ d = '%' := by
  obtain ⟨b, _, hb⟩ := List.mem_flatMap.mp h
  have hlt := UInt8.toNat_lt b
  have hdigit : ∀ n < 16, isUnreserved (Hex.upper n) := fun n hn => by
    simp [isUnreserved, Query.upper_isAlphanum hn]
  simp only [escape, List.mem_cons, List.not_mem_nil, or_false] at hb
  rcases hb with rfl | rfl | rfl
  · exact Or.inr rfl
  · exact Or.inl (hdigit _ (by omega))
  · exact Or.inl (hdigit _ (by omega))

theorem mem_encodePlus {keep : Char → Bool} {cs : List Char} {d : Char}
    (h : d ∈ encodePlus keep cs) : isUnreserved d ∨ keep d ∨ d = '+' ∨ d = '%' := by
  obtain ⟨c, _, hd⟩ := List.mem_flatMap.mp h
  split at hd
  next => exact Or.inr (Or.inr (Or.inl (List.mem_singleton.mp hd)))
  next =>
    unfold encodeChar at hd
    split at hd
    next hk =>
      rw [List.mem_singleton.mp hd]
      exact (Bool.or_eq_true_iff.mp hk).imp id Or.inl
    next => exact (mem_escapes hd).imp id fun h => Or.inr (Or.inr h)

theorem mem_encode {keep : Char → Bool} {cs : List Char} {d : Char} (h : d ∈ encode keep cs) :
    isUnreserved d ∨ keep d ∨ d = '%' := by
  obtain ⟨c, _, hd⟩ := List.mem_flatMap.mp h
  unfold encodeChar at hd
  split at hd
  next hk =>
    rw [List.mem_singleton.mp hd]
    exact (Bool.or_eq_true_iff.mp hk).imp id Or.inl
  next => exact (mem_escapes hd).imp id Or.inr

/-- A mark that no escape has in it comes from nowhere else than itself. -/
theorem not_mem_encodeChar {keep : Char → Bool} {mark c : Char} (hm : isUnreserved mark = false)
    (hp : mark ≠ '%') (hc : c ≠ mark) : mark ∉ encodeChar keep c := by
  unfold encodeChar
  split
  next => exact fun h => hc (List.mem_singleton.mp h).symm
  next =>
    intro h
    rcases mem_escapes h with h | h
    · simp [hm] at h
    · exact hp h

theorem encode_eq_self {keep : Char → Bool} {cs : List Char}
    (h : ∀ c ∈ cs, isUnreserved c ∨ keep c) : encode keep cs = cs := by
  induction cs with
  | nil => rfl
  | cons c cs ih =>
    have hc : (isUnreserved c || keep c) = true := by simpa using h c (List.mem_cons_self ..)
    rw [encode, List.flatMap_cons, encodeChar, if_pos hc, ← encode,
      ih fun d hd => h d (List.mem_cons_of_mem _ hd)]
    rfl

theorem encodeChar_ne_nil (keep : Char → Bool) (c : Char) : encodeChar keep c ≠ [] := by
  unfold encodeChar
  split
  next => simp
  next =>
    obtain ⟨more, hmore⟩ := escape_flatMap_eq_cons c
    simp [hmore]

theorem isEmpty_encode (keep : Char → Bool) (cs : List Char) :
    (encode keep cs).isEmpty = cs.isEmpty := by
  cases cs with
  | nil => rfl
  | cons c cs => simp [encode, List.flatMap_cons, encodeChar_ne_nil]

end Percent

namespace Text

variable {sep : Char} {f : Char → List Char}

theorem splitAt_append_of_not_mem {front : List Char} (h : sep ∉ front) (cs : List Char) :
    splitAt sep (front ++ cs) = match splitAt sep cs with
      | [] => [front]
      | piece :: more => (front ++ piece) :: more := by
  induction front with
  | nil =>
    rw [List.nil_append]
    cases hs : splitAt sep cs with
    | nil => exact absurd hs (splitAt_ne_nil sep cs)
    | cons => rfl
  | cons c front ih =>
    simp only [List.mem_cons, not_or] at h
    rw [List.cons_append, splitAt, if_neg (Ne.symm h.1), ih h.2]
    cases hs : splitAt sep cs with
    | nil => rfl
    | cons => rfl

/-- What keeps a separator and makes no new one leaves the pieces where they are. -/
theorem splitAt_flatMap (hsep : f sep = [sep]) (hf : ∀ c ≠ sep, sep ∉ f c) (cs : List Char) :
    splitAt sep (cs.flatMap f) = (splitAt sep cs).map (List.flatMap f) := by
  induction cs with
  | nil => rfl
  | cons c cs ih =>
    rw [List.flatMap_cons]
    by_cases hc : c = sep
    · subst hc
      simp [hsep, splitAt, ih]
    · rw [splitAt_append_of_not_mem (hf c hc), ih, splitAt, if_neg hc]
      cases hs : splitAt sep cs with
      | nil => exact absurd hs (splitAt_ne_nil sep cs)
      | cons piece more => simp

theorem cutAt_append_of_not_mem {front : List Char} (h : sep ∉ front) (cs : List Char) :
    cutAt sep (front ++ cs) = (front ++ (cutAt sep cs).1, (cutAt sep cs).2) := by
  induction front with
  | nil => rfl
  | cons c front ih =>
    simp only [List.mem_cons, not_or] at h
    rw [List.cons_append, cutAt_cons_of_ne (Ne.symm h.1), ih h.2]
    rfl

theorem cutAt_flatMap (hsep : f sep = [sep]) (hf : ∀ c ≠ sep, sep ∉ f c) (cs : List Char) :
    cutAt sep (cs.flatMap f) =
      ((cutAt sep cs).1.flatMap f, (cutAt sep cs).2.map (List.flatMap f)) := by
  induction cs with
  | nil => rfl
  | cons c cs ih =>
    rw [List.flatMap_cons]
    by_cases hc : c = sep
    · subst hc
      simp [hsep, cutAt]
    · rw [cutAt_append_of_not_mem (hf c hc), ih, cutAt_cons_of_ne hc]
      rfl

end Text

namespace Query

variable {keep : Char → Bool}

theorem component_encode (hpercent : keep '%' = true) (hplus : keep '+' = true) (cs : List Char) :
    component (Percent.encode keep cs) = component cs := by
  rw [component, component,
    Percent.decodeKeeping_spelled (Percent.spelled_encode hpercent hplus cs)]

theorem pair_encode (hpercent : keep '%' = true) (hplus : keep '+' = true)
    (hequals : keep '=' = true) (piece : List Char) :
    pair (Percent.encode keep piece) = pair piece := by
  have hcut := Text.cutAt_flatMap (f := Percent.encodeChar keep)
    (show Percent.encodeChar keep '=' = ['='] by simp [Percent.encodeChar, hequals])
    (fun c hc => Percent.not_mem_encodeChar (by decide) (by decide) hc) piece
  rw [pair, Percent.encode, hcut, pair]
  dsimp only
  rw [← Percent.encode, component_encode hpercent hplus]
  cases (Text.cutAt '=' piece).2 with
  | none => rfl
  | some value => exact congrArg _ (component_encode hpercent hplus value)

/-- A query has the same pairs when it is encoded for a header, where what is escaped already stays
as it is. -/
theorem read_encode (hpercent : keep '%' = true) (hplus : keep '+' = true)
    (hequals : keep '=' = true) (hand : keep '&' = true) (cs : List Char) :
    read (Percent.encode keep cs) = read cs := by
  have hsplit := Text.splitAt_flatMap (f := Percent.encodeChar keep)
    (show Percent.encodeChar keep '&' = ['&'] by simp [Percent.encodeChar, hand])
    (fun c hc => Percent.not_mem_encodeChar (by decide) (by decide) hc) cs
  rw [read, Percent.encode, hsplit, read, List.filter_map, List.map_map]
  have hempty : ((fun piece : List Char => !piece.isEmpty) ∘
      List.flatMap (Percent.encodeChar keep)) = fun piece => !piece.isEmpty := by
    funext piece
    exact congrArg _ (Percent.isEmpty_encode keep piece)
  rw [hempty]
  exact List.map_congr_left fun piece _ => pair_encode hpercent hplus hequals piece

end Query

end Gatehouse
