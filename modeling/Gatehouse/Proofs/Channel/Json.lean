import Gatehouse.Json.Octets
import Gatehouse.Json.Writer
import Gatehouse.Text.Utf8.Lemmas

namespace Gatehouse

namespace Utf16

theorem not_isHalf (c : Char) : isHalf c.toNat = false := by
  have valid := c.valid
  simp only [UInt32.isValidChar, Nat.isValidChar] at valid
  simp only [isHalf, isHigh, isLow, Bool.or_eq_false_iff, Bool.and_eq_false_iff,
    decide_eq_false_iff_not, Char.toNat]
  omega

theorem single_toNat (c : Char) : single c.toNat = .char c := by
  rw [single, dif_neg (by simp [not_isHalf]), Char.ofNat_toNat]

theorem join_number (c : Char) (rest : List Piece) :
    join (.number c.toNat :: rest) = .char c :: join rest := by
  have hhigh : isHigh c.toNat = false := (Bool.or_eq_false_iff.mp (not_isHalf c)).1
  rcases rest with _ | ⟨_ | _, rest⟩
  · simp [join, single_toNat]
  · rw [join, hhigh, single_toNat]
    rfl
  · rw [join.eq_4, single_toNat, join.eq_2]

/-- A character is put together again from its two halves. -/
theorem join_halves {c : Char} {high low : Nat} (h : units c = [high, low]) (rest : List Piece) :
    join (.number high :: .number low :: rest) = .char c :: join rest := by
  have hlt : c.toNat < 0x110000 := by
    have valid := c.valid
    simp only [UInt32.isValidChar, Nat.isValidChar] at valid
    change c.val.toNat < _
    omega
  unfold units at h
  dsimp only at h
  split at h
  next => simp at h
  next hge =>
    simp only [List.cons.injEq, and_true] at h
    obtain ⟨hhigh, hlow⟩ := h
    have hishigh : isHigh high = true := by
      simp only [isHigh, Bool.and_eq_true, decide_eq_true_eq]
      omega
    have hislow : isLow low = true := by
      simp only [isLow, Bool.and_eq_true, decide_eq_true_eq]
      omega
    have hpair : pair high low = c := by
      have hn : 0x10000 + (high - 0xD800) * 0x400 + (low - 0xDC00) = c.toNat := by omega
      rw [pair, hn, Char.ofNat_toNat]
    rw [join, hishigh, hislow, hpair]
    rfl

end Utf16

namespace Json

open Utf16 (Point Piece)

/-- The ways in which a character may stand inside quotes: as it is, escaped by a letter, by its
number, or by the numbers of its two halves. -/
inductive Spells : Char → List Char → Prop
  | plain {c : Char} (control : 0x20 ≤ c.toNat) (quote : c ≠ '"') (slash : c ≠ '\\') : Spells c [c]
  | letter {c e : Char} (h : escaped? e = some c) : Spells c ['\\', e]
  | number {c i j k l : Char} (h : unit? i j k l = some c.toNat) : Spells c ['\\', 'u', i, j, k, l]
  | halves {c i j k l i' j' k' l' : Char} {high low : Nat} (hhigh : unit? i j k l = some high)
    (hlow : unit? i' j' k' l' = some low) (h : Utf16.units c = [high, low]) :
    Spells c ['\\', 'u', i, j, k, l, '\\', 'u', i', j', k', l']

/-- The ways in which a text may stand inside quotes. -/
inductive Quotes : List Char → List Char → Prop
  | nil : Quotes [] []
  | cons {c : Char} {cs front rest : List Char} (h : Spells c front) (hrest : Quotes cs rest) :
    Quotes (c :: cs) (front ++ rest)

theorem escaped?_ne_u {e c : Char} (h : escaped? e = some c) : e ≠ 'u' := by
  rintro rfl
  simp [escaped?] at h

theorem readPieces?_number {i j k l : Char} {n : Nat} (h : unit? i j k l = some n)
    (rest : List Point) :
    readPieces? (['\\', 'u', i, j, k, l].map .char ++ rest) =
      (readPieces? rest).map fun r => (.number n :: r.1, r.2) := by
  simp only [List.map_cons, List.map_nil, List.cons_append, List.nil_append]
  rw [readPieces?, h]
  cases readPieces? rest <;> rfl

theorem Spells.readPieces? {c : Char} {front : List Char} (h : Spells c front) : ∃ ps,
    (∀ more, Utf16.join (ps ++ more) = .char c :: Utf16.join more) ∧
      ∀ rest, readPieces? (front.map .char ++ rest) =
        (Json.readPieces? rest).map fun r => (ps ++ r.1, r.2) := by
  cases h with
  | plain control quote slash =>
    refine ⟨[.point (.char c)], fun more => by rw [List.singleton_append, Utf16.join],
      fun rest => ?_⟩
    have hplain : (Point.char c).isIn isSpecial = false := by
      simp only [Point.isIn, isSpecial, Bool.or_eq_false_iff, decide_eq_false_iff_not]
      exact ⟨by omega, slash⟩
    rw [List.map_singleton, List.singleton_append, Json.readPieces?]
    · rw [hplain]
      cases Json.readPieces? rest <;> rfl
    · intro hc
      exact absurd (Point.char.inj hc) quote
    · intro _ _ _ _ _ hc
      exact absurd (Point.char.inj hc) slash
    · intro _ _ hc
      exact absurd (Point.char.inj hc) slash
  | letter h =>
    rename_i e
    refine ⟨[.point (.char c)], fun more => by rw [List.singleton_append, Utf16.join],
      fun rest => ?_⟩
    simp only [List.map_cons, List.map_nil, List.cons_append, List.nil_append]
    rw [Json.readPieces?, h]
    · cases Json.readPieces? rest <;> rfl
    · intro _ _ _ _ _ _ hu
      exact absurd hu (escaped?_ne_u h)
  | number h =>
    exact ⟨[.number c.toNat], Utf16.join_number c, fun rest => readPieces?_number h rest⟩
  | @halves i j k l i' j' k' l' high low hhigh hlow hunits =>
    refine ⟨[.number high, .number low], Utf16.join_halves hunits, fun rest => ?_⟩
    change Json.readPieces? (['\\', 'u', i, j, k, l].map .char ++
      (['\\', 'u', i', j', k', l'].map .char ++ rest)) = _
    rw [readPieces?_number hhigh, readPieces?_number hlow]
    cases Json.readPieces? rest <;> rfl

/-- What stands inside quotes is read as the text that it stands for. -/
theorem Quotes.readQuoted? {cs spelled : List Char} (h : Quotes cs spelled) (rest : List Point) :
    readQuoted? (spelled.map .char ++ .char '"' :: rest) = some (cs.map .char, rest) := by
  suffices hpieces : ∃ ps, readPieces? (spelled.map .char ++ .char '"' :: rest) = some (ps, rest) ∧
      Utf16.join ps = cs.map .char by
    obtain ⟨ps, hread, hjoin⟩ := hpieces
    rw [Json.readQuoted?, hread, ← hjoin]
    rfl
  induction h with
  | nil => exact ⟨[], by rw [List.map_nil, List.nil_append, readPieces?], rfl⟩
  | cons hc _ ih =>
    obtain ⟨ps, hjoin, hread⟩ := hc.readPieces?
    obtain ⟨more, hmore, hrest⟩ := ih
    refine ⟨ps ++ more, ?_, by rw [hjoin, hrest, List.map_cons]⟩
    rw [List.map_append, List.append_assoc, hread, hmore, Option.map_some]

theorem unit?_fixed {n : Nat} (h : n < 0x20) : ∃ i j k l,
    Hex.fixed 4 n = [i, j, k, l] ∧ unit? i j k l = some n := by
  have hall : ∀ m : Fin 0x20, ∃ i j k l,
      Hex.fixed 4 m = [i, j, k, l] ∧ unit? i j k l = some m.val := fun m =>
    ⟨_, _, _, _, rfl, by revert m; decide⟩
  exact hall ⟨n, h⟩

/-- The usual way to quote a text is one of the ways. -/
theorem quotes_quoteChars (cs : List Char) : Quotes cs (cs.flatMap quoteChar) := by
  induction cs with
  | nil => exact .nil
  | cons c cs ih =>
    refine .cons ?_ ih
    unfold quoteChar
    split
    next h =>
      refine .letter ?_
      rcases h with rfl | rfl <;> rfl
    next h =>
      rw [not_or] at h
      split
      next hcontrol =>
        obtain ⟨i, j, k, l, hfixed, hunit⟩ := unit?_fixed hcontrol
        rw [hfixed]
        exact .number hunit
      next hcontrol => exact .plain (by omega) h.1 h.2

mutual

/-- The ways in which a value may be written that is made of texts and objects, nested down to a
depth. -/
inductive Writes : Nat → Datum → List Char → Prop
  | text {depth : Nat} {s : String} {spelled : List Char} (h : Quotes s.toList spelled) :
    Writes depth (.text s) ('"' :: (spelled ++ ['"']))
  | members {depth : Nat} {ms : List (Datum × Datum)} {space cs : List Char}
    (hspace : space.all isSpace) (h : WritesMembers depth ms cs) :
    Writes (depth + 1) (ofMembers ms) ('\x7b' :: (space ++ cs))

/-- The ways in which the members of an object may be written up to its closing brace. -/
inductive WritesMembers : Nat → List (Datum × Datum) → List Char → Prop
  | last {depth : Nat} {m : Datum × Datum} {space cs : List Char} (h : WritesMember depth m cs)
    (hspace : space.all isSpace) : WritesMembers depth [m] (cs ++ (space ++ ['\x7d']))
  | more {depth : Nat} {m : Datum × Datum} {ms : List (Datum × Datum)}
    {space space' cs rest : List Char} (h : WritesMember depth m cs) (hspace : space.all isSpace)
    (hspace' : space'.all isSpace) (hrest : WritesMembers depth ms rest) :
    WritesMembers depth (m :: ms) (cs ++ (space ++ ',' :: (space' ++ rest)))

inductive WritesMember : Nat → Datum × Datum → List Char → Prop
  | mk {depth : Nat} {name : String} {v : Datum} {spelled space space' cs : List Char}
    (hname : Quotes name.toList spelled) (hspace : space.all isSpace) (hspace' : space'.all isSpace)
    (h : Writes depth v cs) : WritesMember depth (.text name, v)
      ('"' :: (spelled ++ '"' :: (space ++ ':' :: (space' ++ cs))))

end

theorem skip_append {space : List Char} (hspace : space.all isSpace) {c : Char}
    (hc : isSpace c = false) (rest : List Point) :
    skip (space.map .char ++ .char c :: rest) = .char c :: rest := by
  have hall : ∀ p ∈ space.map Point.char, p.isIn isSpace = true := by
    simpa [Point.isIn] using hspace
  rw [skip, List.dropWhile_append_of_pos hall, List.dropWhile_cons_of_neg (by simp [Point.isIn, hc])]

/-- A value starts with a quote or a brace. -/
theorem Writes.head {depth : Nat} {v : Datum} {cs : List Char} (h : Writes depth v cs) :
    ∃ c rest, cs = c :: rest ∧ isSpace c = false := by
  cases h with
  | text => exact ⟨'"', _, rfl, by decide⟩
  | members => exact ⟨'\x7b', _, rfl, by decide⟩

theorem WritesMember.head {depth : Nat} {m : Datum × Datum} {cs : List Char}
    (h : WritesMember depth m cs) : ∃ rest, cs = '"' :: rest := by
  cases h
  exact ⟨_, rfl⟩

theorem WritesMembers.head {depth : Nat} {ms : List (Datum × Datum)} {cs : List Char}
    (h : WritesMembers depth ms cs) : ∃ rest, cs = '"' :: rest := by
  cases h with
  | last h _ =>
    obtain ⟨rest, rfl⟩ := h.head
    exact ⟨_, rfl⟩
  | more h _ _ _ =>
    obtain ⟨rest, rfl⟩ := h.head
    exact ⟨_, rfl⟩

theorem readName?_of_quotes {name : String} {spelled space space' : List Char}
    (hname : Quotes name.toList spelled) (hspace : space.all isSpace) (hspace' : space'.all isSpace)
    {c : Char} (hc : isSpace c = false) (rest : List Point) :
    readName? (.char '"' :: (spelled.map .char ++ .char '"' :: (space.map .char ++ .char ':' ::
      (space'.map .char ++ .char c :: rest)))) = some (.text name, .char c :: rest) := by
  rw [readName?]
  simp only [hname.readQuoted?, skip_append hspace (show isSpace ':' = false by decide),
    skip_append hspace' hc, Datum.ofPoints_chars, String.ofList_toList]

-- Each step into a value, or on to the next member, leaves a shorter text, so one step for each
-- character is enough.

mutual

theorem readValue_of_writes {depth : Nat} {v : Datum} {cs : List Char} : Writes depth v cs →
    ∀ (fuel : Nat) (rest : List Point), cs.length ≤ fuel →
      readValue fuel depth (cs.map .char ++ rest) = .ok (v, rest)
  | .text h, fuel, rest, hfuel => by
    obtain ⟨fuel, rfl⟩ : ∃ n, fuel = n + 1 := ⟨fuel - 1, by simp at hfuel; omega⟩
    rw [List.map_cons, List.map_append, List.cons_append, List.append_assoc, List.map_singleton,
      List.singleton_append, readValue, h.readQuoted?]
    simp only [required, Except.map, Datum.ofPoints_chars, String.ofList_toList]
  | .members hspace h, fuel, rest, hfuel => by
    obtain ⟨fuel, rfl⟩ : ∃ n, fuel = n + 1 := ⟨fuel - 1, by simp at hfuel; omega⟩
    have hread := readMembers_of_writes h fuel rest (by simp at hfuel; omega)
    obtain ⟨tail, rfl⟩ := h.head
    rw [List.map_cons, List.map_append, List.cons_append, List.append_assoc, readValue,
      List.map_cons, List.cons_append, skip_append hspace (by decide)]
    change (readMembers fuel _ (('"' :: tail).map .char ++ rest)).map _ = _
    rw [hread]
    rfl

/-- Once the value of a member has been read, what follows it tells whether it was the last. -/
theorem readMembers_of_member {depth : Nat} {m : Datum × Datum} {cs : List Char} :
    WritesMember depth m cs → ∀ (fuel : Nat) (more : List Point), cs.length ≤ fuel →
      readMembers fuel depth (cs.map .char ++ more) =
        match skip more with
        | .char '\x7d' :: rest => .ok ([m], rest)
        | .char ',' :: rest =>
          (readMembers (fuel - 1) depth (skip rest)).map fun (ms, rest) => (m :: ms, rest)
        | _ => .error .malformed
  | .mk hname hspace hspace' h, fuel, more, hfuel => by
    obtain ⟨fuel, rfl⟩ : ∃ n, fuel = n + 1 := ⟨fuel - 1, by simp at hfuel; omega⟩
    have hread := readValue_of_writes h fuel more (by simp at hfuel; omega)
    obtain ⟨c, tail, rfl, hc⟩ := h.head
    have hfound := readName?_of_quotes hname hspace hspace' hc (tail.map .char ++ more)
    rw [List.map_cons, List.cons_append] at hread
    rw [readMembers]
    simp only [List.map_cons, List.map_append, List.cons_append, List.append_assoc, hfound, hread]
    rfl

theorem readMembers_of_writes {depth : Nat} {ms : List (Datum × Datum)} {cs : List Char} :
    WritesMembers depth ms cs → ∀ (fuel : Nat) (rest : List Point), cs.length ≤ fuel →
      readMembers fuel depth (cs.map .char ++ rest) = .ok (ms, rest)
  | .last h hspace, fuel, rest, hfuel => by
    rw [List.map_append, List.append_assoc,
      readMembers_of_member h fuel _ (by simp at hfuel; omega), List.map_append,
      List.append_assoc, List.map_singleton, List.singleton_append,
      skip_append hspace (by decide)]
    rfl
  | .more h hspace hspace' hrest, fuel, rest, hfuel => by
    have hmore := readMembers_of_writes hrest (fuel - 1) rest (by simp at hfuel; omega)
    obtain ⟨tail, rfl⟩ := hrest.head
    rw [List.map_append, List.append_assoc,
      readMembers_of_member h fuel _ (by simp at hfuel; omega), List.map_append,
      List.append_assoc, List.map_cons, List.cons_append, skip_append hspace (by decide),
      List.map_append, List.append_assoc, List.map_cons, List.cons_append]
    change (readMembers _ depth (skip _)).map _ = _
    rw [skip_append hspace' (by decide), ← List.cons_append, ← List.map_cons, hmore]
    rfl

end

theorem read_of_writes {depth : Nat} {v : Datum} {lead cs trail : List Char}
    (h : Writes depth v cs) (hlead : lead.all isSpace) (htrail : trail.all isSpace) :
    read depth ((lead ++ (cs ++ trail)).map .char) = .ok v := by
  have hread : readValue (2 * ((lead ++ (cs ++ trail)).map Point.char).length + 2) depth
      ((cs ++ trail).map .char) = .ok (v, trail.map .char) := by
    have hfound := readValue_of_writes h (2 * ((lead ++ (cs ++ trail)).map Point.char).length + 2)
      (trail.map .char) (by simp; omega)
    rwa [← List.map_append] at hfound
  have hskip : skip (trail.map .char) = [] := by
    have hall : (trail.map Point.char ++ []).dropWhile (Point.isIn isSpace) = [] :=
      List.dropWhile_append_of_pos (by simpa [Point.isIn] using htrail)
    rwa [List.append_nil] at hall
  obtain ⟨c, tail, rfl, hc⟩ := h.head
  have hfront : skip ((lead ++ (c :: tail ++ trail)).map .char) =
      (c :: tail ++ trail).map .char := by
    rw [List.map_append]
    exact skip_append hlead hc _
  rw [read, hfront, hread]
  simp [hskip]

theorem toNat_of_isSpace {c : Char} (h : isSpace c) : 0 < c.toNat ∧ c.toNat < 0x80 := by
  simp only [isSpace, Bool.or_eq_true, decide_eq_true_eq] at h
  rcases h with ((rfl | rfl) | rfl) | rfl <;> decide

/-- An object starts with two of the first 128 characters, whatever blanks it is written with. -/
theorem Writes.front {depth : Nat} {v : Datum} {entries : List (Datum × Datum)} {lead cs : List Char}
    (h : Writes depth v cs) (hv : v = .map entries) (hlead : lead.all isSpace) (trail : List Char) :
    ∃ c d rest, lead ++ (cs ++ trail) = c :: d :: rest ∧
      (0 < c.toNat ∧ c.toNat < 0x80) ∧ (0 < d.toNat ∧ d.toNat < 0x80) := by
  have hblank : ∀ (space : List Char) (c : Char) (rest : List Char), space.all isSpace →
      0 < c.toNat ∧ c.toNat < 0x80 → ∃ d more, space ++ c :: rest = d :: more ∧
        (0 < d.toNat ∧ d.toNat < 0x80) := by
    intro space c rest hspace hc
    cases space with
    | nil => exact ⟨c, rest, rfl, hc⟩
    | cons d space =>
      exact ⟨d, space ++ c :: rest, rfl,
        toNat_of_isSpace (List.all_eq_true.mp hspace d (List.mem_cons_self ..))⟩
  cases h with
  | text => simp at hv
  | @members _ _ space inner hspace hm =>
    obtain ⟨tail, rfl⟩ := hm.head
    -- The first two are the brace and what follows it, or the first blank and what follows that.
    cases lead with
    | nil =>
      obtain ⟨d, more, hd, hlt⟩ := hblank space '"' (tail ++ trail) hspace (by decide)
      exact ⟨'\x7b', d, more, by simp [← hd], by decide, hlt⟩
    | cons c lead =>
      have hall := List.all_eq_true.mp hlead
      obtain ⟨d, more, hd, hlt⟩ := hblank lead '\x7b' (space ++ '"' :: tail ++ trail)
        (List.all_eq_true.mpr fun e he => hall e (List.mem_cons_of_mem _ he)) (by decide)
      exact ⟨c, d, more, by simp [← hd], toNat_of_isSpace (hall c (List.mem_cons_self ..)), hlt⟩

theorem encode_cons_of_lt {c : Char} (h : c.toNat < 0x80) (rest : List Char) :
    Utf8.encode (c :: rest) = UInt8.ofNat c.toNat :: Utf8.encode rest := by
  rw [Utf8.encode, List.flatMap_cons, Utf8.encodeChar_of_lt h]
  rfl

/-- Octets that start with two of the first 128 characters are read as UTF-8. -/
theorem points?_encode {c d : Char} (hc : 0 < c.toNat ∧ c.toNat < 0x80)
    (hd : 0 < d.toNat ∧ d.toNat < 0x80) (rest : List Char) :
    points? (Utf8.encode (c :: d :: rest)) = some ((c :: d :: rest).map .char) := by
  have hdecode := Utf8.decode?_encode (c :: d :: rest)
  have hnat : ∀ e : Char, e.toNat < 0x80 → (UInt8.ofNat e.toNat).toNat = e.toNat :=
    fun e he => Utf8.toNat_ofNat_of_lt (by omega)
  have hfirst := hnat c hc.2
  have hsecond := hnat d hd.2
  rw [encode_cons_of_lt hc.2, encode_cons_of_lt hd.2] at hdecode ⊢
  -- Of the two octets no more is needed than that they are neither zero nor the start of a mark.
  generalize UInt8.ofNat c.toNat = first at hdecode hfirst ⊢
  generalize UInt8.ofNat d.toNat = second at hdecode hsecond ⊢
  have hzero : first ≠ 0 ∧ second ≠ 0 := by
    constructor
    · rintro rfl
      simp at hfirst
      omega
    · rintro rfl
      simp at hsecond
      omega
  have hmark : first ≠ 0xEF := by
    rintro rfl
    simp at hfirst
    omega
  have hcharset : charset (first :: second :: Utf8.encode rest) = .utf8 := by
    unfold charset
    split <;> simp_all
  have hplain : withoutMark (first :: second :: Utf8.encode rest) =
      first :: second :: Utf8.encode rest := by
    unfold withoutMark
    split <;> simp_all
  rw [points?, hcharset]
  simp only [hplain, hdecode, Option.map_some]

/-- However an object is written, a body with it is read as what it stands for. -/
theorem ofOctets_of_writes {entries : List (Datum × Datum)} {lead cs trail : List Char}
    (h : Writes depthLimit (.map entries) cs) (hlead : lead.all isSpace)
    (htrail : trail.all isSpace) :
    ofOctets (Utf8.encode (lead ++ (cs ++ trail))) = .ok (.map entries) := by
  have hread := read_of_writes h hlead htrail
  obtain ⟨c, d, rest, hfront, hc, hd⟩ := h.front rfl hlead trail
  rw [hfront] at hread ⊢
  rw [ofOctets, points?_encode hc hd]
  simp only [hread]

end Json

end Gatehouse
