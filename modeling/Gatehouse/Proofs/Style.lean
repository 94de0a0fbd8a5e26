import Gatehouse.Style
import Mathlib.Logic.ExistsUnique

namespace Gatehouse

namespace Value

/-- The first value is the second one, or a member of it where that is a tuple, or a member of such
a member, and so on. -/
inductive Within : Value → Value → Prop where
  | self (v : Value) : Within v v
  | member {w v : Value} {items : List Value} (hmem : v ∈ items) (h : Within w v) :
    Within w (.tuple items)

/-- There is a list or map in the value, or the value is one. Tuples are gone into, at any depth. -/
def HoldsSeries (v : Value) : Prop := ∃ w, Within w v ∧ (w.kind = .list ∨ w.kind = .map)

theorem firstUnhashable?_eq_none_iff {items : List Value} :
    firstUnhashable? items = none ↔ ∀ v ∈ items, unhashable? v = none := by
  induction items with
  | nil => simp [firstUnhashable?]
  | cons v rest ih =>
    cases hv : unhashable? v with
    | none => simp [firstUnhashable?, hv, ih]
    | some kind => simp [firstUnhashable?, hv]

mutual

theorem within_of_unhashable? {kind : Kind} :
    ∀ {v : Value}, unhashable? v = some kind →
      ∃ w, Within w v ∧ w.kind = kind ∧ (kind = .list ∨ kind = .map)
  | .list items, h => ⟨.list items, .self _, Option.some.inj h, Or.inl (Option.some.inj h).symm⟩
  | .map entries, h => ⟨.map entries, .self _, Option.some.inj h, Or.inr (Option.some.inj h).symm⟩
  | .tuple items, h => by
    rw [unhashable?] at h
    obtain ⟨v, hmem, w, hwithin, hkind⟩ := within_of_firstUnhashable? h
    exact ⟨w, .member hmem hwithin, hkind⟩
  | .null, h | .bool _, h | .int _, h | .float _, h | .text _, h | .bytes _, h => by
    simp [unhashable?] at h

theorem within_of_firstUnhashable? {kind : Kind} :
    ∀ {items : List Value}, firstUnhashable? items = some kind →
      ∃ v ∈ items, ∃ w, Within w v ∧ w.kind = kind ∧ (kind = .list ∨ kind = .map)
  | [], h => by simp [firstUnhashable?] at h
  | v :: rest, h => by
    rw [firstUnhashable?] at h
    split at h
    next found hv =>
      cases Option.some.inj h
      exact ⟨v, List.mem_cons_self, within_of_unhashable? hv⟩
    next =>
      obtain ⟨w, hmem, hw⟩ := within_of_firstUnhashable? h
      exact ⟨w, List.mem_cons_of_mem v hmem, hw⟩

end

theorem unhashable?_of_within {w v : Value} (h : Within w v)
    (hkind : w.kind = .list ∨ w.kind = .map) : unhashable? v ≠ none := by
  induction h with
  | self =>
    cases w with
    | list items => simp [unhashable?]
    | map entries => simp [unhashable?]
    | _ => simp [kind] at hkind
  | member hmem _ ih =>
    intro hnone
    rw [unhashable?, firstUnhashable?_eq_none_iff] at hnone
    exact ih (hnone _ hmem)

theorem unhashable?_eq_none_iff {v : Value} : unhashable? v = none ↔ ¬ HoldsSeries v := by
  constructor
  · rintro hnone ⟨w, hwithin, hkind⟩
    exact unhashable?_of_within hwithin hkind hnone
  · intro hno
    cases hv : unhashable? v with
    | none => rfl
    | some kind =>
      obtain ⟨w, hwithin, rfl, hkind⟩ := within_of_unhashable? hv
      exact absurd ⟨w, hwithin, hkind⟩ hno

/-- A list or map is not the same key as anything. -/
theorem sameKey_of_not_isKeyKind {key : Value} (h : key.isKeyKind = false) (k : Value) :
    sameKey k key = false := by
  cases key with
  | list items =>
    have hnone : magnitude? (.list items) = none := rfl
    cases k <;> simp [sameKey, hnone]
  | map entries =>
    have hnone : magnitude? (.map entries) = none := rfl
    cases k <;> simp [sameKey, hnone]
  | _ => simp [isKeyKind] at h

theorem lookupKey_eq_find? (key : Value) (entries : List (Value × Value)) :
    lookupKey key entries = (entries.find? fun entry => sameKey entry.1 key).map Prod.snd := by
  induction entries with
  | nil => rfl
  | cons entry rest ih =>
    obtain ⟨k, v⟩ := entry
    cases hk : sameKey k key with
    | true => simp [lookupKey, hk]
    | false => simp [lookupKey, hk, ih]

/-- The first entry with the same key has this value. -/
def Maps (entries : List (Value × Value)) (key value : Value) : Prop :=
  ∃ front k rest, entries = front ++ (k, value) :: rest ∧ sameKey k key = true ∧
    ∀ entry ∈ front, sameKey entry.1 key = false

theorem lookupKey_eq_none_iff {key : Value} {entries : List (Value × Value)} :
    lookupKey key entries = none ↔ ∀ entry ∈ entries, sameKey entry.1 key = false := by
  simp [lookupKey_eq_find?]

theorem lookupKey_eq_some_iff {key value : Value} {entries : List (Value × Value)} :
    lookupKey key entries = some value ↔ Maps entries key value := by
  rw [lookupKey_eq_find?, Option.map_eq_some_iff]
  constructor
  · rintro ⟨⟨k, v⟩, hfind, rfl⟩
    obtain ⟨hk, front, rest, hentries, hfront⟩ := List.find?_eq_some_iff_append.mp hfind
    exact ⟨front, k, rest, hentries, hk, fun entry hmem => by simpa using hfront entry hmem⟩
  · rintro ⟨front, k, rest, hentries, hk, hfront⟩
    refine ⟨(k, value), List.find?_eq_some_iff_append.mpr ⟨hk, front, rest, hentries, ?_⟩, rfl⟩
    exact fun entry hmem => by simpa using hfront entry hmem

end Value

namespace Style

open Value

variable {entries : List (Value × Value)} {key fallback result : Value}

/-- What the class of a key should be: the value mapped to it, else the key itself if it is a text,
else the fallback. -/
inductive Answers (entries : List (Value × Value)) (key fallback : Value) : Value → Prop where
  | mapped {value : Value} (h : Maps entries key value) : Answers entries key fallback value
  | own {s : String} (hnone : ∀ entry ∈ entries, sameKey entry.1 key = false)
    (hkey : key = .text s) : Answers entries key fallback key
  | other (hnone : ∀ entry ∈ entries, sameKey entry.1 key = false)
    (hkey : ∀ s, key ≠ .text s) : Answers entries key fallback fallback

theorem ownClass_of_ne (h : ∀ s, key ≠ .text s) (fallback : Value) :
    ownClass key fallback = fallback := by
  unfold ownClass
  split
  next s => exact absurd rfl (h s)
  next => rfl

/-- Every key should have one class, be it a tuple that holds a list or not. -/
theorem answers_iff :
    Answers entries key fallback result ↔
      result = (lookupKey key entries).getD (ownClass key fallback) := by
  cases hlookup : lookupKey key entries with
  | some value =>
    have hmaps := lookupKey_eq_some_iff.mp hlookup
    have hsome : ¬ ∀ entry ∈ entries, sameKey entry.1 key = false := by
      rw [← lookupKey_eq_none_iff, hlookup]
      simp
    constructor
    · rintro (h | ⟨hnone, -⟩ | ⟨hnone, -⟩)
      · rw [lookupKey_eq_some_iff.mpr h] at hlookup
        exact Option.some.inj hlookup
      · exact absurd hnone hsome
      · exact absurd hnone hsome
    · rintro rfl
      exact .mapped hmaps
  | none =>
    have hnone := lookupKey_eq_none_iff.mp hlookup
    constructor
    · rintro (h | ⟨-, rfl⟩ | ⟨-, hkey⟩)
      · rw [lookupKey_eq_some_iff.mpr h] at hlookup
        cases hlookup
      · rfl
      · exact (ownClass_of_ne hkey fallback).symm
    · rintro rfl
      by_cases htext : ∃ s, key = .text s
      · obtain ⟨s, rfl⟩ := htext
        exact .own hnone rfl
      · have hkey : ∀ s, key ≠ .text s := fun s h => htext ⟨s, h⟩
        rw [Option.getD_none, ownClass_of_ne hkey]
        exact .other hnone hkey

theorem existsUnique_answers : ∃! result, Answers entries key fallback result := by
  simp only [answers_iff, existsUnique_eq]

/-- The key is a tuple with a list or map in it, however deep. -/
def Hides (key : Value) : Prop := ∃ items, key = .tuple items ∧ ∃ v ∈ items, HoldsSeries v

theorem hides_tuple_iff {items : List Value} :
    Hides (.tuple items) ↔ HoldsSeries (.tuple items) := by
  constructor
  · rintro ⟨others, hitems, v, hmem, w, hwithin, hkind⟩
    cases hitems
    exact ⟨w, .member hmem hwithin, hkind⟩
  · rintro ⟨w, hwithin, hkind⟩
    cases hwithin with
    | self => simp [kind] at hkind
    | member hmem h => exact ⟨items, rfl, _, hmem, w, h, hkind⟩

/-- Lists and maps are passed over before they are looked up, so only tuples hide one. -/
theorem hides_iff : Hides key ↔ key.isKeyKind = true ∧ key.unhashable? ≠ none := by
  cases key with
  | tuple items => simp [hides_tuple_iff, isKeyKind, unhashable?_eq_none_iff]
  | list items => simp [Hides, isKeyKind]
  | map entries => simp [Hides, isKeyKind]
  | _ => simp [Hides, unhashable?]

/-- A list or map is no key, so what is found for it is the fallback. -/
theorem lookup_of_not_isKeyKind (h : key.isKeyKind = false) :
    lookup (some entries) key fallback = .ok fallback ∧
      Answers entries key fallback fallback := by
  refine ⟨by simp [lookup, h], .other (fun entry _ => sameKey_of_not_isKeyKind h entry.1) ?_⟩
  rintro s rfl
  simp [isKeyKind] at h

theorem lookup_of_unhashable?_eq_none (h : key.isKeyKind = true) (hnone : key.unhashable? = none) :
    ∃ result, lookup (some entries) key fallback = .ok result ∧
      Answers entries key fallback result :=
  ⟨_, by simp [lookup, h, hnone], answers_iff.mpr rfl⟩

theorem lookup_of_hides (h : Hides key) :
    ∃ kind, (kind = .list ∨ kind = .map) ∧
      lookup (some entries) key fallback = .error (.unhashable kind) := by
  obtain ⟨hkey, hsome⟩ := hides_iff.mp h
  obtain ⟨kind, hfound⟩ := Option.ne_none_iff_exists'.mp hsome
  obtain ⟨w, -, -, hkind⟩ := within_of_unhashable? hfound
  exact ⟨kind, hkind, by simp [lookup, hkey, hfound]⟩

/-- There is always one class that a key should have, and it is found just if the key is no tuple
with a list or map in it. Such a key is a fault, whatever the classes and the fallback are. -/
theorem lookup_answers_iff (entries : List (Value × Value)) (key fallback : Value) :
    (∃! result, Answers entries key fallback result) ∧
    ((∃ result, lookup (some entries) key fallback = .ok result ∧
        Answers entries key fallback result) ↔ ¬ Hides key) ∧
    (Hides key → ∃ kind, (kind = .list ∨ kind = .map) ∧
      lookup (some entries) key fallback = .error (.unhashable kind)) := by
  refine ⟨existsUnique_answers, ⟨?_, ?_⟩, lookup_of_hides⟩
  · rintro ⟨result, hresult, -⟩ hhides
    obtain ⟨kind, -, hfault⟩ := lookup_of_hides hhides
    rw [hfault] at hresult
    cases hresult
  · intro hno
    cases hkey : key.isKeyKind with
    | false => exact ⟨fallback, lookup_of_not_isKeyKind hkey⟩
    | true =>
      cases hfound : key.unhashable? with
      | none => exact lookup_of_unhashable?_eq_none hkey hfound
      | some kind => exact absurd (hides_iff.mpr ⟨hkey, by simp [hfound]⟩) hno

/-- A list in a tuple has no class, not even the fallback, though a list alone has it. -/
theorem lookup_not_answers :
    ¬ ∃ result, lookup (some [(.text "primary", .text "btn")]) (.tuple [.list [.int 1]])
        (.text "btn") = .ok result ∧
      Answers [(.text "primary", .text "btn")] (.tuple [.list [.int 1]]) (.text "btn") result := by
  rintro ⟨result, hresult, -⟩
  have hfault : lookup (some [(.text "primary", .text "btn")]) (.tuple [.list [.int 1]])
      (.text "btn") = .error (.unhashable .list) := rfl
  rw [hfault] at hresult
  cases hresult

end Style

end Gatehouse
