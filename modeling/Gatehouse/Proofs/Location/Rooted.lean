import Gatehouse.Http.Address
import Gatehouse.Proofs.Location.Local
import Gatehouse.Proofs.Reply
import Mathlib.Data.List.TakeDrop

namespace Gatehouse

namespace Location

/-- Empty, or with a slash in front. -/
def IsRooted (cs : List Char) : Prop := cs = [] ∨ cs.head? = some '/'

theorem IsRooted.trimEnd {cs : List Char} (h : IsRooted cs) (p : Char → Bool) :
    IsRooted (Text.trimEnd p cs) := by
  have hprefix : Text.trimEnd p cs <+: cs := by
    rw [Text.trimEnd, ← List.reverse_suffix, List.reverse_reverse]
    exact List.dropWhile_suffix p
  obtain ⟨rest, hrest⟩ := hprefix
  cases ht : Text.trimEnd p cs with
  | nil => exact Or.inl rfl
  | cons c more =>
    rcases h with rfl | h
    · simp [ht] at hrest
    · rw [ht] at hrest
      rw [← hrest] at h
      exact Or.inr h

theorem IsRooted.decode {cs : List Char} (h : IsRooted cs) : IsRooted (Percent.decode cs) := by
  cases cs with
  | nil => exact Or.inl rfl
  | cons c rest =>
    obtain rfl : c = '/' := by simpa [IsRooted] using h
    rw [Percent.decode_cons_of_ne (by decide)]
    exact Or.inr rfl

theorem IsRooted.encode {cs : List Char} (h : IsRooted cs) :
    IsRooted (Percent.encode isKept cs) := by
  cases cs with
  | nil => exact Or.inl rfl
  | cons c rest =>
    obtain rfl : c = '/' := by simpa [IsRooted] using h
    exact Or.inr rfl

theorem IsRooted.cutAt {cs : List Char} (h : IsRooted cs) (sep : Char) :
    IsRooted (Text.cutAt sep cs).1 := by
  rcases Text.head?_cutAt_fst sep cs with hc | hc
  · exact Or.inl (List.head?_eq_none_iff.mp hc)
  · rcases h with rfl | h
    · exact Or.inl rfl
    · exact Or.inr (hc.trans h)

/-- What can follow a scheme and an authority: nothing, or a character that ends an authority. -/
def IsTail (cs : List Char) : Prop := ∀ c, cs.head? = some c → Url.Parts.endsAuthority c


/-- Before a query and a fragment there is a path with a slash in front, or nothing. -/
theorem isRooted_of_isTail {cs : List Char} (h : IsTail cs) :
    IsRooted (Text.cutAt '?' (Text.cutAt '#' cs).1).1 := by
  cases cs with
  | nil => exact Or.inl rfl
  | cons c rest =>
    have hc := h c rfl
    simp only [Url.Parts.endsAuthority, Bool.or_eq_true, decide_eq_true_eq] at hc
    rcases hc with (rfl | rfl) | rfl
    · exact (IsRooted.cutAt (Or.inr rfl) '#').cutAt '?'
    · exact Or.inl rfl
    · exact Or.inl rfl

theorem isTail_takeAuthority {cs : List Char} (h : IsTail cs) :
    IsTail (Url.Parts.takeAuthority cs).2 := by
  unfold Url.Parts.takeAuthority
  split
  next rest =>
    intro c hc
    rw [List.span_eq_takeWhile_dropWhile] at hc
    have := List.head?_dropWhile_not (!Url.Parts.endsAuthority ·) rest
    rw [hc] at this
    simpa using this
  next => exact h

/-- What a letter or mark of a scheme keeps when it is put in lower case. -/
theorem toLower_of_isSchemeMark {c : Char} (h : Url.Parts.isSchemeMark c) :
    Url.Parts.isSchemeMark c.toLower ∧ (c.isAlpha → c.toLower.isAlpha) := by
  have hall : ∀ n : Fin 127, Url.Parts.isSchemeMark (Char.ofNat n) →
      Url.Parts.isSchemeMark (Char.ofNat n).toLower ∧
        ((Char.ofNat n).isAlpha → (Char.ofNat n).toLower.isAlpha) := by
    decide +kernel
  have hlt : c.toNat < 127 := by
    have hg : isGraphic c := by
      simp only [Url.Parts.isSchemeMark, Bool.or_eq_true, decide_eq_true_eq] at h
      rcases h with ((h | rfl) | rfl) | rfl
      · exact isGraphic_of_isUnreserved (by simp [Percent.isUnreserved, h])
      all_goals decide
    simp only [isGraphic, Bool.and_eq_true, decide_eq_true_eq] at hg
    omega
  have := hall ⟨c.toNat, hlt⟩
  simp only [Char.ofNat_toNat] at this
  exact this h

theorem isScheme_iff {cs : List Char} : Url.Parts.isScheme cs ↔
    ∃ c rest, cs = c :: rest ∧ c.isAlpha ∧ ∀ d ∈ cs, Url.Parts.isSchemeMark d := by
  cases cs with
  | nil => simp [Url.Parts.isScheme]
  | cons c rest =>
    have hc : c.isAlpha → Url.Parts.isSchemeMark c := fun h => by
      simp [Url.Parts.isSchemeMark, Char.isAlphanum, h]
    simp only [Url.Parts.isScheme, Bool.and_eq_true, List.all_eq_true, List.forall_mem_cons]
    constructor
    · rintro ⟨ha, hr⟩
      exact ⟨c, rest, rfl, ha, hc ha, hr⟩
    · rintro ⟨_, _, heq, ha, _, hr⟩
      obtain ⟨rfl, rfl⟩ := List.cons.inj heq
      exact ⟨ha, hr⟩

theorem isScheme_map_toLower {cs : List Char} (h : Url.Parts.isScheme cs) :
    Url.Parts.isScheme (cs.map Char.toLower) := by
  obtain ⟨c, rest, rfl, ha, hall⟩ := isScheme_iff.mp h
  refine isScheme_iff.mpr ⟨c.toLower, rest.map Char.toLower, rfl, ?_, ?_⟩
  · exact (toLower_of_isSchemeMark (hall c (List.mem_cons_self ..))).2 ha
  · intro d hd
    obtain ⟨e, he, rfl⟩ := List.mem_map.mp hd
    exact (toLower_of_isSchemeMark (hall e he)).1

/-- A location that starts with a scheme has it, in lower case, and what follows is rooted. -/
theorem split_of_isScheme {scheme tail : List Char} (h : Url.Parts.isScheme scheme)
    (ht : IsTail tail) :
    (Url.Parts.split (scheme ++ ':' :: tail)).scheme = scheme.map Char.toLower ∧
      IsRooted (Url.Parts.split (scheme ++ ':' :: tail)).path := by
  obtain ⟨c, rest, rfl, ha, hall⟩ := isScheme_iff.mp h
  have hgraphic : ∀ d, Url.Parts.isSchemeMark d → d ≠ ':' ∧ Url.Parts.isDropped d = false := by
    intro d hd
    constructor
    · rintro rfl
      exact absurd hd (by decide)
    · cases hdrop : Url.Parts.isDropped d with
      | false => rfl
      | true =>
        simp only [Url.Parts.isDropped, Bool.or_eq_true, decide_eq_true_eq] at hdrop
        rcases hdrop with (rfl | rfl) | rfl <;> exact absurd hd (by decide)
  have hleading : Url.Parts.isLeading c = false := by
    have hu : isGraphic c := isGraphic_of_isUnreserved (by
      simp [Percent.isUnreserved, Char.isAlphanum, ha])
    simp only [isGraphic, Bool.and_eq_true, decide_eq_true_eq] at hu
    simp only [Url.Parts.isLeading, decide_eq_false_iff_not]
    omega
  have hclean : Url.Parts.clean (c :: rest ++ ':' :: tail) =
      c :: rest ++ ':' :: tail.filter (!Url.Parts.isDropped ·) := by
    rw [Url.Parts.clean, List.cons_append, List.dropWhile_cons_of_neg (by simp [hleading]),
      ← List.cons_append, List.filter_append]
    have hkeep : (c :: rest).filter (!Url.Parts.isDropped ·) = c :: rest :=
      List.filter_eq_self.mpr fun d hd => by simp [(hgraphic d (hall d hd)).2]
    rw [hkeep]
    rfl
  have hscheme : Url.Parts.takeScheme (Url.Parts.clean (c :: rest ++ ':' :: tail)) =
      ((c :: rest).map Char.toLower, tail.filter (!Url.Parts.isDropped ·)) := by
    have hcolon : ':' ∉ c :: rest := fun hm => (hgraphic _ (hall _ hm)).1 rfl
    rw [hclean, Url.Parts.takeScheme, Text.cutAt_append_sep hcolon]
    simp only [h, if_true]
  have htail : IsTail (tail.filter (!Url.Parts.isDropped ·)) := by
    cases tail with
    | nil => exact ht
    | cons d more =>
      have hd := ht d rfl
      have hdrop : Url.Parts.isDropped d = false := by
        simp only [Url.Parts.endsAuthority, Bool.or_eq_true, decide_eq_true_eq] at hd
        rcases hd with (rfl | rfl) | rfl <;> decide
      intro e he
      rw [List.filter_cons_of_pos (by simp [hdrop])] at he
      obtain rfl := Option.some.inj he
      exact hd
  simp only [Url.Parts.split, hscheme]
  exact ⟨trivial, isRooted_of_isTail (isTail_takeAuthority htail)⟩

theorem isTail_append {path rest : List Char} (hp : IsRooted path) (hr : IsTail rest) :
    IsTail (path ++ rest) := by
  rcases hp with rfl | hp
  · exact hr
  · intro c hc
    rw [List.head?_append, hp, Option.some_or] at hc
    obtain rfl := Option.some.inj hc
    decide

theorem isTail_after (mark : Char) (hm : Url.Parts.endsAuthority mark) (cs : List Char) :
    IsTail (Url.Parts.after mark cs) := by
  intro c hc
  rcases head?_after mark cs with h | h
  · simp [h] at hc
  · rw [h] at hc
    obtain rfl := Option.some.inj hc
    exact hm

theorem join_of_scheme {p : Url.Parts} (hs : p.scheme.isEmpty = false) (hp : IsRooted p.path) :
    ∃ more, p.join = p.scheme ++ ':' :: more ∧ IsTail more := by
  have hrest : IsTail (Url.Parts.after '?' p.query ++ Url.Parts.after '#' p.fragment) := by
    intro c hc
    rw [List.head?_append] at hc
    cases hq : (Url.Parts.after '?' p.query).head? with
    | none =>
      rw [hq, Option.none_or] at hc
      exact isTail_after '#' (by decide) _ c hc
    | some d =>
      rw [hq, Option.some_or] at hc
      exact isTail_after '?' (by decide) _ c (hq.trans hc)
  cases ha : p.hasAuthority with
  | true =>
    refine ⟨'/' :: '/' :: p.authority ++ Url.Parts.rooted p.path ++
      (Url.Parts.after '?' p.query ++ Url.Parts.after '#' p.fragment), ?_, ?_⟩
    · simp [Url.Parts.join, hs, ha]
    · intro c hc
      obtain rfl := Option.some.inj hc
      decide
  | false =>
    refine ⟨p.path ++ (Url.Parts.after '?' p.query ++ Url.Parts.after '#' p.fragment), ?_,
      isTail_append hp hrest⟩
    simp [Url.Parts.join, hs, ha]

/-- Encoding keeps a scheme, and what follows it stays a path. -/
theorem encode_of_isScheme {scheme tail encoded : List Char} (h : Url.Parts.isScheme scheme)
    (ht : IsTail tail) (he : encode (scheme ++ ':' :: tail) = .ok encoded) :
    ∃ more, encoded = scheme.map Char.toLower ++ ':' :: more ∧ IsTail more := by
  obtain ⟨hscheme, hpath⟩ := split_of_isScheme h ht
  obtain ⟨parts, hparts, he⟩ := bind_eq_ok_iff.mp he
  obtain ⟨_, _, rfl⟩ := map_eq_ok_iff.mp hparts
  obtain ⟨authority, _, he⟩ := bind_eq_ok_iff.mp he
  obtain rfl := Except.ok.inj he
  rw [← hscheme]
  refine join_of_scheme ?_ hpath.encode
  obtain ⟨c, rest, rfl, _⟩ := isScheme_iff.mp h
  rw [hscheme]
  rfl

theorem isScheme_takeScheme (cs : List Char) :
    (Url.Parts.takeScheme cs).1 = [] ∨ Url.Parts.isScheme (Url.Parts.takeScheme cs).1 := by
  unfold Url.Parts.takeScheme
  split
  next =>
    split
    next h => exact Or.inr (isScheme_map_toLower h)
    next => exact Or.inl rfl
  next => exact Or.inl rfl

end Location

namespace Address

/-- The path under which the site stands is empty or starts with a slash. -/
def IsRooted (a : Address) : Prop := Location.IsRooted a.root.toList

/-- Cookies for the root are shown at such an address. -/
theorem IsRooted.head?_cookiePath {a : Address} (h : a.IsRooted) :
    a.cookiePath.toList.head? = some '/' := by
  rw [cookiePath, String.toList_ofList]
  cases hr : a.root.toList with
  | nil => rfl
  | cons c rest =>
    obtain rfl : c = '/' := by simpa [IsRooted, Location.IsRooted, hr] using h
    rfl

theorem isRooted_of_readPlace {scheme tail : List Char} (h : Url.Parts.isScheme scheme)
    (ht : Location.IsTail tail) {place : Url.Parts}
    (hp : readPlace (scheme ++ ':' :: tail) = .ok place) : Location.IsRooted place.path := by
  obtain ⟨encoded, he, hp⟩ := bind_eq_ok_iff.mp hp
  obtain ⟨read, hread, hp⟩ := bind_eq_ok_iff.mp hp
  obtain ⟨more, rfl, hmore⟩ := Location.encode_of_isScheme h ht (mapError_eq_ok he)
  obtain ⟨_, _, rfl⟩ := map_eq_ok_iff.mp (mapError_eq_ok hread)
  split at hp
  next =>
    rw [← Except.ok.inj hp]
    exact (Location.split_of_isScheme (Location.isScheme_map_toLower h) hmore).2
  next => simp at hp

/-- The location of the site starts with a scheme, be it its own or that of an address. -/
theorem location_eq_ok {base : Base} (hbase : Url.Parts.isScheme base.scheme.toText.toList)
    {text location : List Char} (h : base.location (Url.Parts.split text) = .ok location) :
    ∃ scheme tail, location = scheme ++ ':' :: tail ∧ Url.Parts.isScheme scheme ∧
      Location.IsTail tail := by
  obtain ⟨root, _, rfl⟩ := map_eq_ok_iff.mp h
  refine ⟨_, _, List.append_assoc .., ?_, ?_⟩
  · split
    next => exact hbase
    next hne =>
      rcases Location.isScheme_takeScheme (Url.Parts.clean text) with h | h
      · exact absurd (List.isEmpty_iff.mpr h) hne
      · exact h
  · intro c hc
    obtain rfl := Option.some.inj hc
    decide

/-- Whatever address is read, the site stands under a rooted path if it has a scheme of its own. -/
theorem isRooted_of_read {base : Base} (hbase : Url.Parts.isScheme base.scheme.toText.toList)
    {text : String} {a : Address} (h : read base text = .ok a) : a.IsRooted := by
  obtain ⟨parts, hparts, h⟩ := bind_eq_ok_iff.mp h
  obtain ⟨_, _, rfl⟩ := map_eq_ok_iff.mp (mapError_eq_ok hparts)
  obtain ⟨location, hlocation, h⟩ := bind_eq_ok_iff.mp h
  obtain ⟨scheme, tail, rfl, hscheme, htail⟩ := location_eq_ok hbase hlocation
  split at h
  next => simp at h
  next =>
    obtain ⟨_, _, h⟩ := bind_eq_ok_iff.mp h
    obtain ⟨_, _, h⟩ := bind_eq_ok_iff.mp h
    obtain ⟨place, hplace, h⟩ := bind_eq_ok_iff.mp h
    obtain rfl := Except.ok.inj h
    have hpath := isRooted_of_readPlace hscheme htail hplace
    rw [IsRooted, String.toList_ofList]
    exact (hpath.trimEnd _).decode.trimEnd _

/-- Where an address names no place of its own, the site stands at the root of its host. -/
theorem root_of_read {text : String} {a : Address}
    (h : read ⟨.text "http", .null, .text "/"⟩ text = .ok a)
    (hscheme : (Url.Parts.split text.toList).scheme = [])
    (hauthority : (Url.Parts.split text.toList).authority = []) : a.root = "" := by
  obtain ⟨parts, hparts, h⟩ := bind_eq_ok_iff.mp h
  obtain ⟨_, _, rfl⟩ := map_eq_ok_iff.mp (mapError_eq_ok hparts)
  obtain ⟨location, hlocation, h⟩ := bind_eq_ok_iff.mp h
  have hown : location = "http://localhost/".toList := by
    obtain ⟨root, hroot, rfl⟩ := map_eq_ok_iff.mp hlocation
    obtain rfl := Except.ok.inj hroot
    simp only [hscheme, hauthority]
    decide +kernel
  have hroot : String.ofList (Text.trimEnd isSlash
      (Percent.decode (Text.trimEnd isSlash ['/']))) = "" := by decide +kernel
  have hplace : readPlace "http://localhost/".toList =
      .ok ⟨"http".toList, "localhost".toList, ['/'], [], []⟩ := ok_of_toOption (by decide +kernel)
  split at h
  next => simp at h
  next =>
    obtain ⟨_, _, h⟩ := bind_eq_ok_iff.mp h
    obtain ⟨_, _, h⟩ := bind_eq_ok_iff.mp h
    obtain ⟨place, hread, h⟩ := bind_eq_ok_iff.mp h
    rw [hown, hplace] at hread
    obtain rfl := Except.ok.inj hread
    rw [← Except.ok.inj h]
    exact hroot

end Address

end Gatehouse
