import Gatehouse.Proofs.Style
import Gatehouse.Proofs.Value.Same
import Mathlib.Data.List.Induction

namespace Gatehouse

namespace Value

variable {entries front : List (Value × Value)} {key value k v : Value}

/-- One step of the building: what is put in is found under all keys that are the same, and what
was found under the others still is. -/
theorem lookupKey_putKey (key k v : Value) (entries : List (Value × Value)) :
    lookupKey key (putKey k v entries) =
      if sameKey k key then some v else lookupKey key entries := by
  induction entries with
  | nil => rfl
  | cons entry rest ih =>
    obtain ⟨e, w⟩ := entry
    by_cases he : Same e k
    · -- The entry keeps the key `e`, so it is under `e` that the new value is found.
      have hput : putKey k v ((e, w) :: rest) = (e, v) :: rest := if_pos (sameKey_iff.mpr he)
      rw [hput, lookupKey, lookupKey, sameKey_congr_left he]
      cases sameKey k key <;> simp
    · have hput : putKey k v ((e, w) :: rest) = (e, w) :: putKey k v rest :=
        if_neg (sameKey_iff.not.mpr he)
      rw [hput, lookupKey, lookupKey, ih]
      by_cases hek : Same e key
      · have hkey : ¬ Same k key := fun hk => he (hek.trans hk.symm)
        simp only [if_neg (sameKey_iff.not.mpr hkey)]
      · simp only [if_neg (sameKey_iff.not.mpr hek)]

theorem putKeys_concat (front : List (Value × Value)) (k v : Value) :
    putKeys (front ++ [(k, v)]) = putKey k v (putKeys front) := by
  simp [putKeys]

/-- The value of the last pair whose key is the same. -/
def LastPut (entries : List (Value × Value)) (key value : Value) : Prop :=
  ∃ front k rest, entries = front ++ (k, value) :: rest ∧ Same k key ∧
    ∀ entry ∈ rest, ¬ Same entry.1 key

theorem LastPut.concat_self (h : Same k key) : LastPut (front ++ [(k, v)]) key v :=
  ⟨front, k, [], rfl, h, by simp⟩

theorem LastPut.concat_of_not_same (h : LastPut front key value) (hk : ¬ Same k key) :
    LastPut (front ++ [(k, v)]) key value := by
  obtain ⟨before, l, rest, rfl, hl, hrest⟩ := h
  refine ⟨before, l, rest ++ [(k, v)], by simp, hl, ?_⟩
  intro entry hmem
  rcases List.mem_append.mp hmem with hmem | hmem
  · exact hrest entry hmem
  · obtain rfl := List.mem_singleton.mp hmem
    exact hk

theorem lookupKey_putKeys_of_not_same (h : ∀ entry ∈ entries, ¬ Same entry.1 key) :
    lookupKey key (putKeys entries) = none := by
  induction entries using List.reverseRecOn with
  | nil => rfl
  | append_singleton front entry ih =>
    obtain ⟨k, v⟩ := entry
    have hk : ¬ Same k key := h (k, v) (by simp)
    rw [putKeys_concat, lookupKey_putKey, if_neg (sameKey_iff.not.mpr hk)]
    exact ih fun entry hmem => h entry (List.mem_append_left _ hmem)

theorem exists_lastPut (h : ∃ entry ∈ entries, Same entry.1 key) :
    ∃ value, LastPut entries key value := by
  induction entries using List.reverseRecOn with
  | nil => simp at h
  | append_singleton front entry ih =>
    obtain ⟨k, v⟩ := entry
    by_cases hk : Same k key
    · exact ⟨v, .concat_self hk⟩
    · have hfront : ∃ entry ∈ front, Same entry.1 key := by
        obtain ⟨entry, hmem, hsame⟩ := h
        rcases List.mem_append.mp hmem with hmem | hmem
        · exact ⟨entry, hmem, hsame⟩
        · obtain rfl := List.mem_singleton.mp hmem
          exact absurd hsame hk
      obtain ⟨value, hlast⟩ := ih hfront
      exact ⟨value, hlast.concat_of_not_same hk⟩

/-- What was put in is found until something else is put in under a key that is the same. -/
theorem lookupKey_putKeys_of_lastPut (h : LastPut entries key value) :
    lookupKey key (putKeys entries) = some value := by
  obtain ⟨front, k, rest, rfl, hk, hrest⟩ := h
  induction rest using List.reverseRecOn with
  | nil => rw [putKeys_concat, lookupKey_putKey, if_pos (sameKey_iff.mpr hk)]
  | append_singleton rest entry ih =>
    obtain ⟨l, w⟩ := entry
    have hl : ¬ Same l key := hrest (l, w) (by simp)
    rw [← List.cons_append, ← List.append_assoc, putKeys_concat, lookupKey_putKey,
      if_neg (sameKey_iff.not.mpr hl)]
    exact ih fun entry hmem => hrest entry (List.mem_append_left _ hmem)

theorem LastPut.unique {other : Value} (h : LastPut entries key value)
    (hother : LastPut entries key other) : value = other :=
  Option.some.inj ((lookupKey_putKeys_of_lastPut h).symm.trans (lookupKey_putKeys_of_lastPut hother))

theorem lookupKey_congr {other : Value} (h : Same key other) (entries : List (Value × Value)) :
    lookupKey other entries = lookupKey key entries := by
  simp only [lookupKey_eq_find?, sameKey_congr_right h]

/-- A key with an undefined number in it is the same as no key. -/
theorem not_same_of_within_undefined (h : Within (.float .undefined) key) (k : Value) :
    ¬ Same k key := by
  induction h generalizing k with
  | self =>
    intro hsame
    cases hsame with
    | number _ hb => simp [number?] at hb
  | member hmem _ ih =>
    intro hsame
    obtain ⟨others, rfl, hall⟩ := same_tuple_iff.mp hsame.symm
    obtain ⟨w, -, hw⟩ := exists_same_of_mem hall hmem
    exact ih w hw.symm

end Value

namespace Style

open Value

variable {entries : List (Value × Value)} {key fallback : Value}

theorem lookup_of_not_holdsSeries (h : ¬ key.HoldsSeries) :
    lookup (some entries) key fallback =
      .ok ((lookupKey key entries).getD (ownClass key fallback)) := by
  have hnone := unhashable?_eq_none_iff.mpr h
  cases key with
  | list items => simp [unhashable?] at hnone
  | map entries => simp [unhashable?] at hnone
  | _ => simp [lookup, isKeyKind, hnone]

theorem ownClass_congr {other : Value} (h : Same key other) (fallback : Value) :
    ownClass other fallback = ownClass key fallback := by
  cases h with
  | number ha hb =>
    rw [ownClass_of_ne, ownClass_of_ne]
    · rintro s rfl
      simp [number?] at ha
    · rintro s rfl
      simp [number?] at hb
  | _ => rfl

theorem lookup_congr {other : Value} (h : Same key other) (entries : List (Value × Value))
    (fallback : Value) :
    lookup (some entries) other fallback = lookup (some entries) key fallback := by
  have hother := unhashable?_eq_none_iff.mp (unhashable?_of_same h)
  have hkey := unhashable?_eq_none_iff.mp (unhashable?_of_same h.symm)
  rw [lookup_of_not_holdsSeries hother, lookup_of_not_holdsSeries hkey, lookupKey_congr h,
    ownClass_congr h]

/-- A key that can be looked up gets the value that was last put in under a key that is the same,
whatever value that is; if there is none, the key itself if it is a text, and else the fallback. A
key with an undefined number in it gets the fallback, and keys that are the same get the same. -/
theorem lookup_putKeys (entries : List (Value × Value)) (key fallback : Value)
    (hkey : ¬ key.HoldsSeries) :
    ((∃ entry ∈ entries, Same entry.1 key) →
      ∃ value, LastPut entries key value ∧
        lookup (some (putKeys entries)) key fallback = .ok value) ∧
    ((∀ entry ∈ entries, ¬ Same entry.1 key) →
      (∀ s, key = .text s → lookup (some (putKeys entries)) key fallback = .ok key) ∧
      ((∀ s, key ≠ .text s) → lookup (some (putKeys entries)) key fallback = .ok fallback)) ∧
    (Within (.float .undefined) key →
      lookup (some (putKeys entries)) key fallback = .ok fallback) ∧
    ∀ other, Same key other →
      lookup (some (putKeys entries)) other fallback =
        lookup (some (putKeys entries)) key fallback := by
  have hlookup : lookup (some (putKeys entries)) key fallback =
      .ok ((lookupKey key (putKeys entries)).getD (ownClass key fallback)) :=
    lookup_of_not_holdsSeries hkey
  refine ⟨?_, ?_, ?_, fun other h => lookup_congr h _ _⟩
  · intro h
    obtain ⟨value, hlast⟩ := exists_lastPut h
    exact ⟨value, hlast, by rw [hlookup, lookupKey_putKeys_of_lastPut hlast, Option.getD_some]⟩
  · intro h
    rw [hlookup, lookupKey_putKeys_of_not_same h, Option.getD_none]
    refine ⟨?_, fun hne => by rw [ownClass_of_ne hne]⟩
    rintro s rfl
    rfl
  · intro h
    have hnone : ∀ entry ∈ entries, ¬ Same entry.1 key := fun entry _ =>
      not_same_of_within_undefined h entry.1
    have hne : ∀ s, key ≠ .text s := by
      rintro s rfl
      cases h
    rw [hlookup, lookupKey_putKeys_of_not_same hnone, Option.getD_none, ownClass_of_ne hne]

/-- Classes for pairs of numbers. The second number of the second pair is one more than 2⁵³, which
numbers of the floating format cannot be. -/
def sizes : List (Value × Value) :=
  [(.tuple [.int 1, .int 9007199254740992], .text "size-1"),
   (.tuple [.bool true, .int 9007199254740993], .text "size-2"),
   (.tuple [.float (.finite false Binary64.one),
     .float (.finite false (9007199254740992 * Binary64.one))], .null),
   (.tuple [.int 1, .float .undefined], .text "size-3")]

/-- A key for `sizes` that is in none of its pairs as it stands. -/
def wanted : Value := .tuple [.bool true, .int 9007199254740992]

/-- The null of the third pair replaces the class of the first, and the key gets it, not the
fallback. -/
theorem lookup_putKeys_sizes :
    ¬ wanted.HoldsSeries ∧ LastPut sizes wanted .null ∧
      lookup (some (putKeys sizes)) wanted (.text "btn") = .ok .null := by
  have hkey : ¬ wanted.HoldsSeries := unhashable?_eq_none_iff.mp rfl
  have hthird : Same (.tuple [.float (.finite false Binary64.one),
      .float (.finite false (9007199254740992 * Binary64.one))]) wanted :=
    sameKey_iff.mp (by decide +kernel)
  have hfourth : ¬ Same (.tuple [.int 1, .float .undefined]) wanted :=
    sameKey_iff.not.mp (by decide +kernel)
  have hlast : LastPut sizes wanted .null := by
    refine ⟨[_, _], _, [_], rfl, hthird, ?_⟩
    intro entry hmem
    obtain rfl := List.mem_singleton.mp hmem
    exact hfourth
  have hmapped : ∃ entry ∈ sizes, Same entry.1 wanted :=
    ⟨_, List.mem_of_getElem? (show sizes[2]? = some _ from rfl), hthird⟩
  obtain ⟨value, hvalue, hlookup⟩ := (lookup_putKeys sizes wanted (.text "btn") hkey).1 hmapped
  obtain rfl := hlast.unique hvalue
  exact ⟨hkey, hlast, hlookup⟩

end Style

end Gatehouse
