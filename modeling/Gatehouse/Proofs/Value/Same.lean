import Gatehouse.Value.Key
import Mathlib.Algebra.Field.Rat
import Mathlib.Data.List.Forall2

namespace Gatehouse

theorem Binary64.cast_one_ne_zero : (one : ℚ) ≠ 0 := by
  have hone : one ≠ 0 := by decide +kernel
  exact Nat.cast_ne_zero.mpr hone

namespace Magnitude

/-- The number of this size, if it is a finite one. -/
def number? : Magnitude → Option ℚ
  | .units n => some (n / Binary64.one)
  | .infinite _ => none

theorem number?_injective {x y : Magnitude} {q : ℚ} (hx : x.number? = some q)
    (hy : y.number? = some q) : x = y := by
  cases x with
  | infinite negative => simp [number?] at hx
  | units m =>
    cases y with
    | infinite negative => simp [number?] at hy
    | units n =>
      have heq : (m / Binary64.one : ℚ) = n / Binary64.one :=
        (Option.some.inj hx).trans (Option.some.inj hy).symm
      have hcast : (m : ℚ) = n := (div_left_inj' Binary64.cast_one_ne_zero).mp heq
      rw [Rat.intCast_injective hcast]

end Magnitude

namespace Value

/-- The number that a value stands for, exactly; the truth values are one and zero. Infinities,
undefined numbers and what is no number stand for none. -/
def number? : Value → Option ℚ
  | .bool b => some (if b then 1 else 0)
  | .int n => some n
  | .float (.finite negative units) =>
    some ((if negative then -(units : ℚ) else units) / Binary64.one)
  | _ => none

/-- Nulls are the same, and infinities of one sign; texts and octets where they are identical;
numbers of any kinds where they are equal; tuples member by member. An undefined number is the same
as nothing. -/
inductive Same : Value → Value → Prop where
  | null : Same .null .null
  | text (s : String) : Same (.text s) (.text s)
  | bytes (b : List UInt8) : Same (.bytes b) (.bytes b)
  | number {a b : Value} {q : ℚ} (ha : number? a = some q) (hb : number? b = some q) : Same a b
  | infinite (negative : Bool) :
    Same (.float (.infinite negative)) (.float (.infinite negative))
  | tuple {items others : List Value} (h : List.Forall₂ Same items others) :
    Same (.tuple items) (.tuple others)

theorem same_tuple_iff {items : List Value} {b : Value} :
    Same (.tuple items) b ↔ ∃ others, b = .tuple others ∧ List.Forall₂ Same items others := by
  constructor
  · intro h
    cases h with
    | tuple h => exact ⟨_, rfl, h⟩
    | number ha _ => simp [number?] at ha
  · rintro ⟨others, rfl, h⟩
    exact .tuple h

theorem exists_same_of_mem {items others : List Value} (h : List.Forall₂ Same items others)
    {v : Value} (hmem : v ∈ items) : ∃ w ∈ others, Same v w := by
  induction h with
  | nil => cases hmem
  | cons hsame _ ih =>
    rcases List.mem_cons.mp hmem with rfl | hmem
    · exact ⟨_, List.mem_cons_self, hsame⟩
    · obtain ⟨w, hw, hsame⟩ := ih hmem
      exact ⟨w, List.mem_cons_of_mem _ hw, hsame⟩

theorem number?_eq_bind (v : Value) : number? v = v.magnitude?.bind Magnitude.number? := by
  have hone := Binary64.cast_one_ne_zero
  cases v with
  | bool b =>
    simp only [number?, magnitude?, Option.bind_some, Magnitude.number?]
    -- The unit has hundreds of digits, and `simp` is not to write it out.
    generalize Binary64.one = u at hone ⊢
    cases b <;> simp [hone]
  | int n =>
    simp only [number?, magnitude?, Option.bind_some, Magnitude.number?]
    generalize Binary64.one = u at hone ⊢
    simp [hone]
  | float x =>
    cases x with
    | finite negative units =>
      simp only [number?, magnitude?, Option.bind_some, Magnitude.number?]
      generalize Binary64.one = u
      cases negative <;> simp
    | _ => rfl
  | _ => rfl

theorem eq_of_magnitude?_eq_infinite {v : Value} {negative : Bool}
    (h : v.magnitude? = some (.infinite negative)) : v = .float (.infinite negative) := by
  cases v with
  | float x =>
    cases x with
    | infinite other => simpa [magnitude?] using h
    | _ => simp [magnitude?] at h
  | _ => simp only [magnitude?, Option.some.injEq, reduceCtorEq] at h

theorem same_of_magnitude? {a b : Value} {x : Magnitude} (ha : a.magnitude? = some x)
    (hb : b.magnitude? = some x) : Same a b := by
  cases x with
  | units n =>
    have hnumber : ∀ {v : Value}, v.magnitude? = some (.units n) →
        number? v = some (n / Binary64.one : ℚ) := by
      intro v hv
      rw [number?_eq_bind, hv]
      rfl
    exact .number (hnumber ha) (hnumber hb)
  | infinite negative =>
    obtain rfl := eq_of_magnitude?_eq_infinite ha
    obtain rfl := eq_of_magnitude?_eq_infinite hb
    exact .infinite negative

/-- What has a size is the same key as what has the same size. -/
theorem sameKey_iff_of_magnitude? {a b : Value} {x : Magnitude} (ha : a.magnitude? = some x) :
    sameKey a b = true ↔ b.magnitude? = some x := by
  cases a with
  | bool _ | int _ | float _ => cases hb : b.magnitude? <;> simp [sameKey, ha, hb, eq_comm]
  | _ => simp [magnitude?] at ha

theorem sameKey_of_number? {a b : Value} {q : ℚ} (ha : number? a = some q)
    (hb : number? b = some q) : sameKey a b = true := by
  rw [number?_eq_bind, Option.bind_eq_some_iff] at ha hb
  obtain ⟨x, ha, hx⟩ := ha
  obtain ⟨y, hb, hy⟩ := hb
  obtain rfl := Magnitude.number?_injective hx hy
  exact (sameKey_iff_of_magnitude? ha).mpr hb

mutual

theorem sameKey_of_same : ∀ {a b : Value}, Same a b → sameKey a b = true
  | _, _, .null => rfl
  | _, _, .text s => by simp [sameKey]
  | _, _, .bytes b => by simp [sameKey]
  | _, _, .number ha hb => sameKey_of_number? ha hb
  | _, _, .infinite negative => (sameKey_iff_of_magnitude? rfl).mpr rfl
  | _, _, .tuple h => by
    rw [sameKey]
    exact sameKeys_of_same h

theorem sameKeys_of_same : ∀ {items others : List Value}, List.Forall₂ Same items others →
    sameKeys items others = true
  | _, _, .nil => rfl
  | _, _, .cons h hrest => by
    rw [sameKeys, sameKey_of_same h, sameKeys_of_same hrest]
    rfl

end

mutual

theorem same_of_sameKey : ∀ {a b : Value}, sameKey a b = true → Same a b
  | .tuple items, b, h => by
    have hnone : magnitude? (.tuple items) = none := rfl
    cases b with
    | tuple others =>
      rw [sameKey] at h
      exact .tuple (same_of_sameKeys h)
    | _ => simp [sameKey, hnone] at h
  | .null, b, h => by
    have hnone : magnitude? .null = none := rfl
    cases b with
    | null => exact .null
    | _ => simp [sameKey, hnone] at h
  | .text s, b, h => by
    cases b with
    | text t =>
      obtain rfl : s = t := by simpa [sameKey] using h
      exact .text s
    | _ => simp [sameKey, magnitude?_text] at h
  | .bytes o, b, h => by
    have hnone : magnitude? (.bytes o) = none := rfl
    cases b with
    | bytes p =>
      obtain rfl : o = p := by simpa [sameKey] using h
      exact .bytes o
    | _ => simp [sameKey, hnone] at h
  | .bool _, _, h => same_of_magnitude? rfl ((sameKey_iff_of_magnitude? rfl).mp h)
  | .int _, _, h => same_of_magnitude? rfl ((sameKey_iff_of_magnitude? rfl).mp h)
  | .float x, b, h => by
    cases hx : magnitude? (.float x) with
    | none => simp [sameKey, hx] at h
    | some _ => exact same_of_magnitude? hx ((sameKey_iff_of_magnitude? hx).mp h)
  | .list items, b, h => by
    have hnone : magnitude? (.list items) = none := rfl
    simp [sameKey, hnone] at h
  | .map entries, b, h => by
    have hnone : magnitude? (.map entries) = none := rfl
    simp [sameKey, hnone] at h

theorem same_of_sameKeys : ∀ {items others : List Value}, sameKeys items others = true →
    List.Forall₂ Same items others
  | [], [], _ => .nil
  | a :: rest, b :: others, h => by
    rw [sameKeys, Bool.and_eq_true] at h
    exact .cons (same_of_sameKey h.1) (same_of_sameKeys h.2)
  | [], _ :: _, h | _ :: _, [], h => by simp [sameKeys] at h

end

theorem sameKey_iff {a b : Value} : sameKey a b = true ↔ Same a b :=
  ⟨same_of_sameKey, sameKey_of_same⟩

mutual

theorem Same.symm : ∀ {a b : Value}, Same a b → Same b a
  | _, _, .null => .null
  | _, _, .text s => .text s
  | _, _, .bytes b => .bytes b
  | _, _, .number ha hb => .number hb ha
  | _, _, .infinite negative => .infinite negative
  | _, _, .tuple h => .tuple (allSame_symm h)

theorem allSame_symm : ∀ {items others : List Value}, List.Forall₂ Same items others →
    List.Forall₂ Same others items
  | _, _, .nil => .nil
  | _, _, .cons h hrest => .cons h.symm (allSame_symm hrest)

end

mutual

theorem Same.trans : ∀ {a b c : Value}, Same a b → Same b c → Same a c
  | _, _, _, .null, h => h
  | _, _, _, .text _, h => h
  | _, _, _, .bytes _, h => h
  | _, _, _, .infinite _, h => h
  | _, _, _, .number ha hb, h => by
    cases h with
    | number hb' hc =>
      obtain rfl := Option.some.inj (hb.symm.trans hb')
      exact .number ha hc
    | _ => simp [number?] at hb
  | _, _, _, .tuple h, hbc => by
    obtain ⟨_, rfl, hrest⟩ := same_tuple_iff.mp hbc
    exact .tuple (allSame_trans h hrest)

theorem allSame_trans : ∀ {items others more : List Value}, List.Forall₂ Same items others →
    List.Forall₂ Same others more → List.Forall₂ Same items more
  | _, _, _, .nil, h => h
  | _, _, _, .cons h hrest, .cons h' hrest' => .cons (h.trans h') (allSame_trans hrest hrest')

end

theorem sameKey_congr_left {a b : Value} (h : Same a b) (k : Value) :
    sameKey a k = sameKey b k := by
  rw [Bool.eq_iff_iff, sameKey_iff, sameKey_iff]
  exact ⟨h.symm.trans, h.trans⟩

theorem sameKey_congr_right {a b : Value} (h : Same a b) (k : Value) :
    sameKey k a = sameKey k b := by
  rw [Bool.eq_iff_iff, sameKey_iff, sameKey_iff]
  exact ⟨fun hk => hk.trans h, fun hk => hk.trans h.symm⟩

mutual

theorem unhashable?_of_same : ∀ {a b : Value}, Same a b → unhashable? b = none
  | _, _, .null => rfl
  | _, _, .text _ => rfl
  | _, _, .bytes _ => rfl
  | _, _, .infinite _ => rfl
  | _, b, .number _ hb => by
    cases b with
    | bool _ => rfl
    | int _ => rfl
    | float _ => rfl
    | _ => simp [number?] at hb
  | _, _, .tuple h => by
    rw [unhashable?]
    exact firstUnhashable?_of_same h

theorem firstUnhashable?_of_same : ∀ {items others : List Value},
    List.Forall₂ Same items others → firstUnhashable? others = none
  | _, _, .nil => rfl
  | _, _, .cons h hrest => by
    rw [firstUnhashable?, unhashable?_of_same h]
    exact firstUnhashable?_of_same hrest

end

end Value

end Gatehouse
