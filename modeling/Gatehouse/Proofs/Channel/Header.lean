import Gatehouse.Http.Authorization
import Gatehouse.Text.Utf8.Lemmas
import Mathlib.Data.List.TakeWhile

namespace Gatehouse

namespace Text

variable {p : Char → Bool} {cs left right : List Char}

theorem trimEnd_append (hr : ∀ c ∈ right, p c = true) (h : ∀ c ∈ cs, p c = false) :
    trimEnd p (cs ++ right) = cs := by
  have hreverse : ∀ c ∈ right.reverse, p c = true := fun c hc => hr c (List.mem_reverse.mp hc)
  have hkept : cs.reverse.dropWhile p = cs.reverse := by
    refine List.dropWhile_eq_self_iff.mpr fun hl => ?_
    rw [h _ (List.mem_reverse.mp (List.getElem_mem hl))]
    exact Bool.false_ne_true
  rw [trimEnd, List.reverse_append, List.dropWhile_append_of_pos hreverse, hkept,
    List.reverse_reverse]

/-- What is trimmed has lost all of its blanks if it has none inside. -/
theorem trim_append (hl : ∀ c ∈ left, p c = true) (hr : ∀ c ∈ right, p c = true)
    (h : ∀ c ∈ cs, p c = false) : trim p (left ++ cs ++ right) = cs := by
  rw [trim, List.append_assoc, List.dropWhile_append_of_pos hl]
  cases cs with
  | nil =>
    have hnone : right.dropWhile p = [] := List.dropWhile_eq_nil_iff.mpr hr
    rw [List.nil_append, hnone]
    rfl
  | cons c cs =>
    have hc : p c = false := h c (List.mem_cons_self ..)
    rw [List.cons_append, List.dropWhile_cons_of_neg (by simp [hc]), ← List.cons_append]
    exact trimEnd_append hr h

theorem exists_trim (p : Char → Bool) (cs : List Char) :
    ∃ left right, cs = left ++ trim p cs ++ right ∧ ∀ c ∈ left ++ right, p c = true := by
  have hfront : cs.takeWhile p ++ cs.dropWhile p = cs := List.takeWhile_append_dropWhile
  have hback : (cs.dropWhile p).reverse.takeWhile p ++ (cs.dropWhile p).reverse.dropWhile p =
      (cs.dropWhile p).reverse := List.takeWhile_append_dropWhile
  refine ⟨cs.takeWhile p, ((cs.dropWhile p).reverse.takeWhile p).reverse, ?_, ?_⟩
  · rw [trim, trimEnd, List.append_assoc, ← List.reverse_append, hback, List.reverse_reverse, hfront]
  · intro c hc
    rcases List.mem_append.mp hc with hc | hc
    · exact List.mem_takeWhile_imp hc
    · exact List.mem_takeWhile_imp (List.mem_reverse.mp hc)

theorem cutAt_cases (sep : Char) (cs : List Char) : (sep ∉ cs ∧ cutAt sep cs = (cs, none)) ∨
    ∃ front back, sep ∉ front ∧ cs = front ++ sep :: back ∧ cutAt sep cs = (front, some back) := by
  by_cases hm : sep ∈ cs
  · obtain ⟨front, back, rfl, hfront⟩ := List.eq_append_cons_of_mem hm
    exact Or.inr ⟨front, back, hfront, rfl, cutAt_append_sep hfront back⟩
  · exact Or.inl ⟨hm, cutAt_of_not_mem hm⟩

end Text

namespace Base64

theorem mem_of_decode? {cs : List Char} {bs : List UInt8} (h : decode? cs = some bs) {c : Char}
    (hc : c ∈ cs) : c = '=' ∨ (value? c).isSome := by
  fun_induction decode? cs generalizing bs with
  | case1 => simp at hc
  | case2 a b =>
    obtain ⟨x, hx, h⟩ := Option.bind_eq_some_iff.mp h
    obtain ⟨y, hy, _⟩ := Option.bind_eq_some_iff.mp h
    simp only [List.mem_cons, List.not_mem_nil, or_false] at hc
    rcases hc with rfl | rfl | rfl | rfl
    · exact Or.inr (Option.isSome_of_eq_some hx)
    · exact Or.inr (Option.isSome_of_eq_some hy)
    · exact Or.inl rfl
    · exact Or.inl rfl
  | case3 a b c hne =>
    obtain ⟨x, hx, h⟩ := Option.bind_eq_some_iff.mp h
    obtain ⟨y, hy, h⟩ := Option.bind_eq_some_iff.mp h
    obtain ⟨z, hz, _⟩ := Option.bind_eq_some_iff.mp h
    simp only [List.mem_cons, List.not_mem_nil, or_false] at hc
    rcases hc with rfl | rfl | rfl | rfl
    · exact Or.inr (Option.isSome_of_eq_some hx)
    · exact Or.inr (Option.isSome_of_eq_some hy)
    · exact Or.inr (Option.isSome_of_eq_some hz)
    · exact Or.inl rfl
  | case4 a b c d rest hnotwo hnoone ih =>
    obtain ⟨x, hx, h⟩ := Option.bind_eq_some_iff.mp h
    obtain ⟨y, hy, h⟩ := Option.bind_eq_some_iff.mp h
    obtain ⟨z, hz, h⟩ := Option.bind_eq_some_iff.mp h
    obtain ⟨w, hw, h⟩ := Option.bind_eq_some_iff.mp h
    simp only [List.mem_cons] at hc
    rcases hc with rfl | rfl | rfl | rfl | hc
    · exact Or.inr (Option.isSome_of_eq_some hx)
    · exact Or.inr (Option.isSome_of_eq_some hy)
    · exact Or.inr (Option.isSome_of_eq_some hz)
    · exact Or.inr (Option.isSome_of_eq_some hw)
    · dsimp only at h
      split at h
      next hpads =>
        exact Or.inl (by simpa [isPad] using List.all_eq_true.mp hpads _ hc)
      next =>
        obtain ⟨more, hmore, _⟩ := Option.bind_eq_some_iff.mp h
        exact ih hmore hc
  | case5 => simp at h

theorem lt_of_value? {c : Char} (h : (value? c).isSome) : c.toNat < 0x80 ∧ c ≠ ' ' ∧ c ≠ '\t' := by
  refine ⟨?_, ?_, ?_⟩
  · unfold value? at h
    simp only [Char.le_def, UInt32.le_iff_toNat_le] at h
    split at h
    next hupper => exact Nat.lt_of_le_of_lt hupper.2 (by decide)
    next =>
      split at h
      next hlower => exact Nat.lt_of_le_of_lt hlower.2 (by decide)
      next =>
        split at h
        next hdigit => exact Nat.lt_of_le_of_lt hdigit.2 (by decide)
        next =>
          split at h
          next hplus => exact hplus ▸ (by decide)
          next =>
            split at h
            next hslash => exact hslash ▸ (by decide)
            next => simp at h
  · rintro rfl
    exact absurd h (by decide)
  · rintro rfl
    exact absurd h (by decide)

end Base64

namespace Authorization

/-- After the scheme of the header, between blanks, there is Base64 for UTF-8 that gives the username
up to the first colon, and then the password. The scheme alone bears a pair of empty texts. -/
def Bears (header u p : String) : Prop :=
  header.toList.map Char.toLower = "basic".toList ∧ u = "" ∧ p = "" ∨
  ∃ scheme left credentials right octets text,
    header.toList = scheme ++ ' ' :: (left ++ credentials ++ right) ∧
    scheme.map Char.toLower = "basic".toList ∧ (∀ c ∈ left ++ right, c = ' ' ∨ c = '\t') ∧
    Base64.decode? credentials = some octets ∧ Utf8.decode? octets = some text ∧
    ':' ∉ u.toList ∧ (text = u.toList ++ ':' :: p.toList ∨ text = u.toList ∧ p = "")

/-- The scheme is that of pairs, and a character past the first 128 comes after it. -/
def IsGarbled (header : String) : Prop :=
  ∃ scheme rest, header.toList = scheme ++ ' ' :: rest ∧
    scheme.map Char.toLower = "basic".toList ∧ ∃ c ∈ rest, 0x80 ≤ c.toNat

variable {header u p : String} {scheme rest cs : List Char}

theorem isHeaderBlank_iff {c : Char} : isHeaderBlank c = true ↔ c = ' ' ∨ c = '\t' := by
  simp [isHeaderBlank]

theorem isAscii_of_isHeaderBlank {c : Char} (h : isHeaderBlank c = true) : isAscii c = true := by
  rcases isHeaderBlank_iff.mp h with rfl | rfl <;> rfl

theorem space_not_mem_scheme (h : scheme.map Char.toLower = "basic".toList) : ' ' ∉ scheme := by
  intro hm
  have hlower : Char.toLower ' ' ∈ "basic".toList := h ▸ List.mem_map.mpr ⟨' ', hm, rfl⟩
  exact absurd hlower (by decide)

theorem basicPair?_of_scheme (hh : header.toList = scheme ++ ' ' :: rest)
    (hs : scheme.map Char.toLower = "basic".toList) :
    basicPair? header = if (Text.trim isHeaderBlank rest).all isAscii then
      .ok (decodePair? (Text.trim isHeaderBlank rest)) else .error .notAscii := by
  rw [basicPair?, hh, Text.cutAt_append_sep (space_not_mem_scheme hs)]
  simp only [hs, if_true, Option.getD_some]

theorem trim_all_isAscii (cs : List Char) :
    (Text.trim isHeaderBlank cs).all isAscii = cs.all isAscii := by
  obtain ⟨left, right, hcs, hblank⟩ := Text.exists_trim isHeaderBlank cs
  have hleft : left.all isAscii = true := List.all_eq_true.mpr fun c hc =>
    isAscii_of_isHeaderBlank (hblank c (List.mem_append_left right hc))
  have hright : right.all isAscii = true := List.all_eq_true.mpr fun c hc =>
    isAscii_of_isHeaderBlank (hblank c (List.mem_append_right left hc))
  calc (Text.trim isHeaderBlank cs).all isAscii
      = (left ++ Text.trim isHeaderBlank cs ++ right).all isAscii := by
        rw [List.all_append, List.all_append, hleft, hright, Bool.true_and, Bool.and_true]
    _ = cs.all isAscii := by rw [← hcs]

theorem basicPair?_of_bare (hs : header.toList.map Char.toLower = "basic".toList) :
    basicPair? header = .ok (some ("", "")) := by
  have hempty : Text.trim isHeaderBlank ((none : Option (List Char)).getD []) = [] := rfl
  rw [basicPair?, Text.cutAt_of_not_mem (space_not_mem_scheme hs)]
  simp only [hs, if_true, hempty]
  rfl

theorem basicPair?_cases (header : String) :
    basicPair? header = .ok none ∨ header.toList.map Char.toLower = "basic".toList ∨
    ∃ scheme rest, header.toList = scheme ++ ' ' :: rest ∧
      scheme.map Char.toLower = "basic".toList := by
  rcases Text.cutAt_cases ' ' header.toList with ⟨_, hcut⟩ | ⟨scheme, rest, _, hh, hcut⟩
  · by_cases hs : header.toList.map Char.toLower = "basic".toList
    · exact Or.inr (Or.inl hs)
    · refine Or.inl ?_
      rw [basicPair?, hcut]
      simp only [hs, if_false]
  · by_cases hs : scheme.map Char.toLower = "basic".toList
    · exact Or.inr (Or.inr ⟨scheme, rest, hh, hs⟩)
    · refine Or.inl ?_
      rw [basicPair?, hcut]
      simp only [hs, if_false]

theorem splitPair_eq_iff {text : List Char} : splitPair text = (u, p) ↔
    ':' ∉ u.toList ∧ (text = u.toList ++ ':' :: p.toList ∨ text = u.toList ∧ p = "") := by
  constructor
  · intro h
    rcases Text.cutAt_cases ':' text with ⟨hm, hcut⟩ | ⟨front, back, hm, htext, hcut⟩
    · rw [splitPair, hcut] at h
      obtain ⟨rfl, rfl⟩ := Prod.mk.inj h
      rw [String.toList_ofList]
      exact ⟨hm, Or.inr ⟨rfl, rfl⟩⟩
    · rw [splitPair, hcut] at h
      obtain ⟨rfl, rfl⟩ := Prod.mk.inj h
      simp only [String.toList_ofList, Option.getD_some]
      exact ⟨hm, Or.inl htext⟩
  · rintro ⟨hm, rfl | ⟨rfl, rfl⟩⟩
    · simp [splitPair, Text.cutAt_append_sep hm]
    · simp [splitPair, Text.cutAt_of_not_mem hm]

theorem decodePair?_eq_some_iff : decodePair? cs = some (u, p) ↔
    ∃ octets text, Base64.decode? cs = some octets ∧ Utf8.decode? octets = some text ∧
      splitPair text = (u, p) := by
  unfold decodePair?
  cases hd : Base64.decode? cs with
  | none => simp
  | some octets => simp [Option.map_eq_some_iff]

/-- A header is read as a pair just if it bears that pair. -/
theorem basicPair?_eq_some_iff :
    basicPair? header = .ok (some (u, p)) ↔ Bears header u p := by
  constructor
  · intro h
    rcases basicPair?_cases header with hnone | hs | ⟨scheme, rest, hh, hs⟩
    · rw [hnone] at h
      simp at h
    · rw [basicPair?_of_bare hs] at h
      simp only [Except.ok.injEq, Option.some.injEq, Prod.mk.injEq] at h
      exact Or.inl ⟨hs, h.1.symm, h.2.symm⟩
    · rw [basicPair?_of_scheme hh hs] at h
      split at h
      next =>
        obtain ⟨octets, text, hoctets, htext, hsplit⟩ :=
          decodePair?_eq_some_iff.mp (Except.ok.inj h)
        obtain ⟨left, right, hrest, hblank⟩ := Text.exists_trim isHeaderBlank rest
        exact Or.inr ⟨scheme, left, _, right, octets, text, hrest ▸ hh, hs,
          fun c hc => isHeaderBlank_iff.mp (hblank c hc), hoctets, htext,
          splitPair_eq_iff.mp hsplit⟩
      next => simp at h
  · rintro (⟨hs, rfl, rfl⟩ |
      ⟨scheme, left, credentials, right, octets, text, hh, hs, hblank, hoctets, htext, hpair⟩)
    · exact basicPair?_of_bare hs
    have hdigits : ∀ c ∈ credentials, c.toNat < 0x80 ∧ c ≠ ' ' ∧ c ≠ '\t' := by
      intro c hc
      rcases Base64.mem_of_decode? hoctets hc with rfl | hvalue
      · decide
      · exact Base64.lt_of_value? hvalue
    have htrim : Text.trim isHeaderBlank (left ++ credentials ++ right) = credentials := by
      refine Text.trim_append (fun c hc => ?_) (fun c hc => ?_) fun c hc => ?_
      · exact isHeaderBlank_iff.mpr (hblank c (List.mem_append_left right hc))
      · exact isHeaderBlank_iff.mpr (hblank c (List.mem_append_right left hc))
      · rw [Bool.eq_false_iff, ne_eq, isHeaderBlank_iff, not_or]
        exact (hdigits c hc).2
    have hascii : credentials.all isAscii = true :=
      List.all_eq_true.mpr fun c hc => decide_eq_true (hdigits c hc).1
    have hdecoded : decodePair? credentials = some (u, p) :=
      decodePair?_eq_some_iff.mpr ⟨octets, text, hoctets, htext, splitPair_eq_iff.mpr hpair⟩
    rw [basicPair?_of_scheme hh hs, htrim, if_pos hascii, hdecoded]

theorem basicPair?_eq_error_iff {fault : Fault} :
    basicPair? header = .error fault ↔ fault = .notAscii ∧ IsGarbled header := by
  constructor
  · intro h
    rcases basicPair?_cases header with hnone | hs | ⟨scheme, rest, hh, hs⟩
    · rw [hnone] at h
      simp at h
    · rw [basicPair?_of_bare hs] at h
      simp at h
    · rw [basicPair?_of_scheme hh hs, trim_all_isAscii] at h
      split at h
      next => simp at h
      next hascii =>
        obtain ⟨c, hc, hwide⟩ : ∃ c ∈ rest, ¬ isAscii c = true := by
          simpa [List.all_eq_true] using hascii
        refine ⟨(Except.error.inj h).symm, scheme, rest, hh, hs, c, hc, ?_⟩
        simpa [isAscii] using hwide
  · rintro ⟨rfl, scheme, rest, hh, hs, c, hc, hwide⟩
    have hascii : ¬ rest.all isAscii = true := by
      intro hall
      have hc' : c.toNat < 0x80 := of_decide_eq_true (List.all_eq_true.mp hall c hc)
      omega
    rw [basicPair?_of_scheme hh hs, trim_all_isAscii, if_neg hascii]

theorem isAscii_of_mem_encode {bs : List UInt8} {c : Char} (h : c ∈ Base64.encode bs) :
    isAscii c = true ∧ isHeaderBlank c = false := by
  rcases Base64.mem_of_decode? (Base64.decode?_encode bs) h with rfl | hvalue
  · decide
  · obtain ⟨hlt, hblank⟩ := Base64.lt_of_value? hvalue
    rw [Bool.eq_false_iff, ne_eq, isHeaderBlank_iff, not_or]
    exact ⟨decide_eq_true hlt, hblank⟩

/-- A pair is read from the header that carries it, if no colon in the username ends it too soon. -/
theorem basicPair?_basic {username : String} (h : ':' ∉ username.toList) (password : String) :
    basicPair? (basic username password) = .ok (some (username, password)) := by
  have hheader : (basic username password).toList = "Basic".toList ++ ' ' ::
      Base64.encode (Utf8.encode (username.toList ++ ':' :: password.toList)) := by
    simp [basic]
  have hcredentials : ∀ bs, Text.trim isHeaderBlank (Base64.encode bs) = Base64.encode bs := by
    intro bs
    have hnone : ∀ c ∈ ([] : List Char), isHeaderBlank c = true := by simp
    have hsome : ∀ c ∈ Base64.encode bs, isHeaderBlank c = false :=
      fun c hc => (isAscii_of_mem_encode hc).2
    have htrim := Text.trim_append hnone hnone hsome
    rwa [List.nil_append, List.append_nil] at htrim
  have hascii : ∀ bs, (Base64.encode bs).all isAscii = true :=
    fun bs => List.all_eq_true.mpr fun c hc => (isAscii_of_mem_encode hc).1
  rw [basicPair?_of_scheme hheader (by decide)]
  simp only [hcredentials, hascii, if_true, decodePair?, Base64.decode?_encode, Utf8.decode?_encode,
    Option.map_some, splitPair, Text.cutAt_append_sep h, Option.getD_some, String.ofList_toList]

end Authorization

end Gatehouse
