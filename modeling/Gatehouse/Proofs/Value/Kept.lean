import Gatehouse.Proofs.Value.Sorted

namespace Gatehouse.Value

mutual

/-- The keys of every map in the value are texts, each of them once. -/
def IsKeyed : Value → Prop
  | .list items => AreKeyed items
  | .tuple items => AreKeyed items
  | .map entries => (entries.map Prod.fst).Nodup ∧ EntriesAreKeyed entries
  | _ => True

def AreKeyed : List Value → Prop
  | [] => True
  | v :: rest => IsKeyed v ∧ AreKeyed rest

def EntriesAreKeyed : List (Value × Value) → Prop
  | [] => True
  | (key, v) :: rest => IsText key ∧ IsKeyed v ∧ EntriesAreKeyed rest

end

theorem isKeyed_text (s : String) : (text s).IsKeyed := by rw [IsKeyed] <;> simp

theorem isKeyed_bool (b : Bool) : (bool b).IsKeyed := by rw [IsKeyed] <;> simp

theorem areKeyed_append {items more : List Value} :
    AreKeyed (items ++ more) ↔ AreKeyed items ∧ AreKeyed more := by
  induction items with
  | nil => simp [AreKeyed]
  | cons v items ih => simp [AreKeyed, ih, and_assoc]

mutual

/-- The same value, but for the order of the entries of its maps. -/
inductive Alike : Value → Value → Prop
  | refl (v : Value) : Alike v v
  | list {items others : List Value} : ItemsAlike items others → Alike (.list items) (.list others)
  | tuple {items others : List Value} :
    ItemsAlike items others → Alike (.tuple items) (.tuple others)
  | map {entries others sorted : List (Value × Value)} : EntriesAlike entries others →
    sorted.Perm others → Alike (.map entries) (.map sorted)

inductive ItemsAlike : List Value → List Value → Prop
  | nil : ItemsAlike [] []
  | cons {v w : Value} {items others : List Value} :
    Alike v w → ItemsAlike items others → ItemsAlike (v :: items) (w :: others)

inductive EntriesAlike : List (Value × Value) → List (Value × Value) → Prop
  | nil : EntriesAlike [] []
  | cons {v w : Value} {entries others : List (Value × Value)} (key : Value) :
    Alike v w → EntriesAlike entries others →
    EntriesAlike ((key, v) :: entries) ((key, w) :: others)

end

theorem EntriesAlike.keys {entries others : List (Value × Value)}
    (h : EntriesAlike entries others) : others.map Prod.fst = entries.map Prod.fst := by
  induction entries generalizing others with
  | nil =>
    cases h
    rfl
  | cons entry entries ih =>
    cases h with
    | cons key _ hrest => simp [ih hrest]

theorem entriesAreKeyed_iff {entries : List (Value × Value)} :
    EntriesAreKeyed entries ↔ ∀ e ∈ entries, e.1.IsText ∧ e.2.IsKeyed := by
  induction entries with
  | nil => simp [EntriesAreKeyed]
  | cons entry entries ih =>
    obtain ⟨key, v⟩ := entry
    simp [EntriesAreKeyed, ih, and_assoc]

/-- An entry with its value as it is before it is known whether the value can be kept. -/
def readied (e : Value × Value) : Value × Except Fault Value := (e.1, .ok e.2)

theorem exists_map_readied {others : List (Value × Value)}
    {sorted : List (Value × Except Fault Value)} (h : sorted.Perm (others.map readied)) :
    ∃ entries : List (Value × Value), sorted = entries.map readied ∧ entries.Perm others := by
  let back (e : Value × Except Fault Value) : Option (Value × Value) := e.2.toOption.map (e.1, ·)
  have hback : ∀ l : List (Value × Value), (l.map readied).filterMap back = l := by
    intro l
    induction l with
    | nil => rfl
    | cons e l ih => simpa [back, readied, Except.toOption] using ih
  refine ⟨sorted.filterMap back, ?_, ?_⟩
  · have hall : ∀ e ∈ sorted, ∃ entry, e = readied entry := by
      intro e he
      obtain ⟨entry, _, rfl⟩ := List.mem_map.mp (h.mem_iff.mp he)
      exact ⟨entry, rfl⟩
    clear h
    induction sorted with
    | nil => rfl
    | cons e sorted ih =>
      obtain ⟨entry, rfl⟩ := hall e (List.mem_cons_self ..)
      have hrest := ih fun e he => hall e (List.mem_cons_of_mem _ he)
      simpa [back, readied, Except.toOption] using hrest
  · have := h.filterMap back
    rwa [hback] at this

theorem namedEntries_readied {entries : List (Value × Value)} (h : ∀ e ∈ entries, e.1.IsText) :
    namedEntries (entries.map readied) = .ok entries := by
  induction entries with
  | nil => rfl
  | cons e entries ih =>
    obtain ⟨key, v⟩ := e
    obtain ⟨s, rfl⟩ : key.IsText := h (key, v) (List.mem_cons_self ..)
    rw [List.map_cons, readied, namedEntries, ih fun e he => h e (List.mem_cons_of_mem _ he)]
    rfl

theorem putKey_of_not_mem {name : String} {v : Value} {entries : List (Value × Value)}
    (h : .text name ∉ entries.map Prod.fst) :
    putKey (.text name) v entries = entries ++ [(.text name, v)] := by
  induction entries with
  | nil => rfl
  | cons e entries ih =>
    obtain ⟨key, w⟩ := e
    simp only [List.map_cons, List.mem_cons, not_or] at h
    have hne : sameKey key (.text name) = false := by
      cases hs : sameKey key (.text name) with
      | false => rfl
      | true => exact absurd (sameKey_text_iff.mp hs).symm h.1
    simp [putKey, hne, ih h.2]

theorem putKeys_of_nodup {entries : List (Value × Value)} (h : (entries.map Prod.fst).Nodup)
    (ht : ∀ e ∈ entries, e.1.IsText) : putKeys entries = entries := by
  suffices hall : ∀ built : List (Value × Value), ((built ++ entries).map Prod.fst).Nodup →
      entries.foldl (fun built e => putKey e.1 e.2 built) built = built ++ entries from
    hall [] (by simpa using h)
  clear h
  induction entries with
  | nil => simp
  | cons e entries ih =>
    obtain ⟨key, v⟩ := e
    obtain ⟨s, rfl⟩ : key.IsText := ht (key, v) (List.mem_cons_self ..)
    intro built hn
    have hnot : .text s ∉ built.map Prod.fst := by
      intro hm
      simp only [List.map_append, List.map_cons] at hn
      exact (List.nodup_append.mp hn).2.2 _ hm _ (List.mem_cons_self ..) rfl
    rw [List.foldl_cons, putKey_of_not_mem hnot, ih (fun e he => ht e (List.mem_cons_of_mem _ he)) _
      (by simpa using hn)]
    simp

/-- The entries of a map once their values are known, in the order of their keys. -/
theorem stored_map {entries others : List (Value × Value)}
    (hs : storedEntries entries = others.map readied) (hn : (others.map Prod.fst).Nodup)
    (ht : ∀ e ∈ others, e.1.IsText) :
    ∃ sorted, (Value.map entries).stored = .ok (.map sorted) ∧ sorted.Perm others := by
  have hready : ∀ e ∈ others.map readied, e.1.IsText := by
    intro e he
    obtain ⟨entry, hmem, rfl⟩ := List.mem_map.mp he
    exact ht entry hmem
  obtain ⟨inOrder, hsort⟩ := sortByKey_ok hready
  obtain ⟨sorted, rfl, hperm⟩ := exists_map_readied (sortByKey_perm hsort)
  have hnamed : namedEntries (sorted.map readied) = .ok sorted :=
    namedEntries_readied fun e he => ht e (hperm.mem_iff.mp he)
  have hput : putKeys sorted = sorted :=
    putKeys_of_nodup ((hperm.map Prod.fst).nodup_iff.mpr hn)
      fun e he => ht e (hperm.mem_iff.mp he)
  refine ⟨sorted, ?_, hperm⟩
  rw [stored, hs, hsort]
  simp only [Except.bind, hnamed, Except.map, hput]

mutual

theorem exists_stored : ∀ {v : Value}, v.IsKeyed →
    ∃ w, v.stored = .ok w ∧ Alike v w ∧ w.IsKeyed
  | .list items, h => by
    obtain ⟨others, hs, halike, hkeyed⟩ := exists_storedItems (by simpa [IsKeyed] using h)
    exact ⟨.list others, by rw [stored, hs]; rfl, .list halike, by simpa [IsKeyed] using hkeyed⟩
  | .tuple items, h => by
    obtain ⟨others, hs, halike, hkeyed⟩ := exists_storedItems (by simpa [IsKeyed] using h)
    exact ⟨.tuple others, by rw [stored, hs]; rfl, .tuple halike, by simpa [IsKeyed] using hkeyed⟩
  | .map entries, h => by
    obtain ⟨hn, hkeyed⟩ : (entries.map Prod.fst).Nodup ∧ EntriesAreKeyed entries := by
      simpa [IsKeyed] using h
    obtain ⟨others, hs, halike, hothers⟩ := exists_storedEntries hkeyed
    have hno : (others.map Prod.fst).Nodup := by rwa [halike.keys]
    have hall := entriesAreKeyed_iff.mp hothers
    obtain ⟨sorted, hsorted, hperm⟩ := stored_map hs hno fun e he => (hall e he).1
    refine ⟨.map sorted, hsorted, .map halike hperm, ?_⟩
    rw [IsKeyed, entriesAreKeyed_iff]
    exact ⟨(hperm.map Prod.fst).nodup_iff.mpr hno, fun e he => hall e (hperm.mem_iff.mp he)⟩
  | .null, _ => ⟨.null, rfl, .refl _, trivial⟩
  | .bool b, _ => ⟨.bool b, rfl, .refl _, trivial⟩
  | .int n, _ => ⟨.int n, rfl, .refl _, trivial⟩
  | .float x, _ => ⟨.float x, rfl, .refl _, trivial⟩
  | .text s, _ => ⟨.text s, rfl, .refl _, trivial⟩
  | .bytes b, _ => ⟨.bytes b, rfl, .refl _, trivial⟩

theorem exists_storedItems : ∀ {items : List Value}, AreKeyed items →
    ∃ others, storedItems items = .ok others ∧ ItemsAlike items others ∧ AreKeyed others
  | [], _ => ⟨[], rfl, .nil, trivial⟩
  | v :: rest, h => by
    obtain ⟨hv, hrest⟩ : v.IsKeyed ∧ AreKeyed rest := by simpa [AreKeyed] using h
    obtain ⟨w, hs, halike, hkeyed⟩ := exists_stored hv
    obtain ⟨others, hss, halikes, hkeyeds⟩ := exists_storedItems hrest
    refine ⟨w :: others, ?_, .cons halike halikes, by simpa [AreKeyed] using ⟨hkeyed, hkeyeds⟩⟩
    simp only [storedItems, hs, hss, Except.map]

theorem exists_storedEntries : ∀ {entries : List (Value × Value)}, EntriesAreKeyed entries →
    ∃ others, storedEntries entries = others.map readied ∧ EntriesAlike entries others ∧
      EntriesAreKeyed others
  | [], _ => ⟨[], rfl, .nil, trivial⟩
  | (key, v) :: rest, h => by
    obtain ⟨hkey, hv, hrest⟩ : key.IsText ∧ v.IsKeyed ∧ EntriesAreKeyed rest := by
      simpa [EntriesAreKeyed] using h
    obtain ⟨w, hs, halike, hkeyed⟩ := exists_stored hv
    obtain ⟨others, hss, halikes, hkeyeds⟩ := exists_storedEntries hrest
    refine ⟨(key, w) :: others, ?_, .cons key halike halikes,
      by simpa [EntriesAreKeyed] using ⟨hkey, hkeyed, hkeyeds⟩⟩
    rw [storedEntries, hs, hss]
    rfl

end

theorem lookupText_eq_some_iff {name : String} {v : Value} {entries : List (Value × Value)}
    (hn : (entries.map Prod.fst).Nodup) :
    lookupText name entries = some v ↔ (.text name, v) ∈ entries := by
  induction entries with
  | nil => simp [lookupText]
  | cons e entries ih =>
    obtain ⟨key, w⟩ := e
    rw [List.map_cons, List.nodup_cons] at hn
    rw [lookupText_cons, List.mem_cons]
    split
    next hkey =>
      obtain rfl := sameKey_text_iff.mp hkey
      constructor
      · intro h
        exact Or.inl (by rw [Option.some.inj h])
      · rintro (h | h)
        · rw [(Prod.mk.inj h).2]
        · exact absurd (List.mem_map_of_mem h) hn.1
    next hkey =>
      rw [ih hn.2]
      constructor
      · exact Or.inr
      · rintro (h | h)
        · exact absurd (sameKey_text_iff.mpr (Prod.mk.inj h).1.symm) hkey
        · exact h

theorem lookupText_perm {entries others : List (Value × Value)} (h : entries.Perm others)
    (hn : (others.map Prod.fst).Nodup) (name : String) :
    lookupText name entries = lookupText name others := by
  have hn' : (entries.map Prod.fst).Nodup := (h.map Prod.fst).nodup_iff.mpr hn
  apply Option.ext
  intro v
  rw [lookupText_eq_some_iff hn, lookupText_eq_some_iff hn', h.mem_iff]

theorem lookupText_storedEntries {entries others : List (Value × Value)}
    (h : storedEntries entries = others.map readied) (name : String) :
    lookupText name others = (lookupText name entries).bind fun v => v.stored.toOption := by
  induction entries generalizing others with
  | nil =>
    cases others with
    | nil => rfl
    | cons => simp [storedEntries] at h
  | cons e entries ih =>
    obtain ⟨key, v⟩ := e
    cases others with
    | nil => simp [storedEntries] at h
    | cons other others =>
      obtain ⟨key', w⟩ := other
      rw [storedEntries, List.map_cons, List.cons.injEq] at h
      obtain ⟨rfl, hv⟩ := Prod.mk.inj h.1
      rw [lookupText_cons, lookupText_cons]
      split
      next => rw [Option.bind_some, hv]; rfl
      next => exact ih h.2

/-- What a kept map holds under a name is what it held before, kept itself. -/
theorem lookupText_of_stored {entries kept : List (Value × Value)}
    (h : (Value.map entries).IsKeyed) (hs : (Value.map entries).stored = .ok (.map kept))
    (name : String) :
    lookupText name kept = (lookupText name entries).bind fun v => v.stored.toOption := by
  obtain ⟨hn, hkeyed⟩ : (entries.map Prod.fst).Nodup ∧ EntriesAreKeyed entries := by
    simpa [IsKeyed] using h
  obtain ⟨others, hothers, halike, hk⟩ := exists_storedEntries hkeyed
  have hno : (others.map Prod.fst).Nodup := by rwa [halike.keys]
  obtain ⟨sorted, hsorted, hperm⟩ :=
    stored_map hothers hno fun e he => (entriesAreKeyed_iff.mp hk e he).1
  obtain rfl := Value.map.inj (Except.ok.inj (hsorted.symm.trans hs))
  rw [lookupText_perm hperm hno, lookupText_storedEntries hothers]

theorem exists_alike_of_stored {entries kept : List (Value × Value)}
    (h : (Value.map entries).IsKeyed) (hs : (Value.map entries).stored = .ok (.map kept))
    {name : String} {w : Value} (hw : lookupText name kept = some w) :
    ∃ v, lookupText name entries = some v ∧ Alike v w := by
  obtain ⟨hn, hkeyed⟩ : (entries.map Prod.fst).Nodup ∧ EntriesAreKeyed entries := by
    simpa [IsKeyed] using h
  rw [lookupText_of_stored h hs] at hw
  obtain ⟨v, hv, hstored⟩ := Option.bind_eq_some_iff.mp hw
  have hmem := (lookupText_eq_some_iff hn).mp hv
  obtain ⟨w', hw', halike, _⟩ := exists_stored (entriesAreKeyed_iff.mp hkeyed _ hmem).2
  rw [hw'] at hstored
  obtain rfl := Option.some.inj hstored
  exact ⟨v, hv, halike⟩

end Gatehouse.Value
