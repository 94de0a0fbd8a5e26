import Gatehouse.Value.Basic

namespace Gatehouse

/-- The exact size of a number, for numbers of every kind alike. -/
inductive Magnitude where
  | units (n : Int)
  | infinite (negative : Bool)
  deriving DecidableEq, Repr

/-- The order of size. -/
def Magnitude.less : Magnitude → Magnitude → Bool
  | .units m, .units n => m < n
  | .units _, .infinite negative => !negative
  | .infinite negative, .units _ => negative
  | .infinite left, .infinite right => left && !right

namespace Value

/-- The truth values are the numbers one and zero. What is no number, or an undefined one, has no
magnitude. -/
def magnitude? : Value → Option Magnitude
  | .bool b => some (.units (if b then Binary64.one else 0))
  | .int n => some (.units (n * Binary64.one))
  | .float (.finite negative n) => some (.units (if negative then -(n : Int) else n))
  | .float (.infinite negative) => some (.infinite negative)
  | _ => none

mutual

/-- Numbers are the same key when they are equal, texts and octets when they are identical, tuples
member by member. An undefined number is not the same as any key. -/
def sameKey : Value → Value → Bool
  | .null, .null => true
  | .text s, .text t => s = t
  | .bytes b, .bytes c => b = c
  | .tuple items, .tuple others => sameKeys items others
  | a, b =>
    match a.magnitude?, b.magnitude? with
    | some x, some y => x = y
    | _, _ => false

def sameKeys : List Value → List Value → Bool
  | [], [] => true
  | a :: rest, b :: others => sameKey a b && sameKeys rest others
  | _, _ => false

end

mutual

/-- The kind of the first list or map met in a key, if there is one: such a key cannot be looked
up. -/
def unhashable? : Value → Option Kind
  | .list _ => some .list
  | .map _ => some .map
  | .tuple items => firstUnhashable? items
  | _ => none

def firstUnhashable? : List Value → Option Kind
  | [] => none
  | v :: rest =>
    match unhashable? v with
    | some k => some k
    | none => firstUnhashable? rest

end

/-- Whether values of this kind are keys at all; a tuple is, whatever it holds. -/
def isKeyKind : Value → Bool
  | .list _ => false
  | .map _ => false
  | _ => true

/-- The value of the entry whose key is the same. -/
def lookupKey (key : Value) : List (Value × Value) → Option Value
  | [] => none
  | (k, v) :: rest => if sameKey k key then some v else lookupKey key rest

/-- A new key goes to the end; a key already there stays as it is and takes the new value. -/
def putKey (key value : Value) : List (Value × Value) → List (Value × Value)
  | [] => [(key, value)]
  | (k, v) :: rest =>
    if sameKey k key then (k, value) :: rest else (k, v) :: putKey key value rest

/-- The map built by putting entries in one after the other. -/
def putKeys (entries : List (Value × Value)) : List (Value × Value) :=
  entries.foldl (fun built (k, v) => putKey k v built) []

/-- A text has no magnitude. -/
theorem magnitude?_text (name : String) : magnitude? (.text name) = none := rfl

/-- A text is the same key as itself only. -/
theorem sameKey_text_iff {key : Value} {name : String} :
    sameKey key (.text name) = true ↔ key = .text name := by
  cases key with
  | text s => simp [sameKey]
  | _ => simp [sameKey, magnitude?_text]

theorem lookupText_cons (name : String) (key v : Value) (rest : List (Value × Value)) :
    lookupText name ((key, v) :: rest) =
      if sameKey key (.text name) then some v else lookupText name rest := by
  cases key with
  | text s => simp [lookupText, sameKey]
  | _ => simp [lookupText, sameKey, magnitude?_text]

theorem lookupText_putKey_self (name : String) (v : Value) (entries : List (Value × Value)) :
    lookupText name (putKey (.text name) v entries) = some v := by
  induction entries with
  | nil => simp [putKey, lookupText]
  | cons entry rest ih =>
    obtain ⟨k, w⟩ := entry
    by_cases h : sameKey k (.text name)
    · simp [putKey, h, lookupText_cons]
    · simp [putKey, h, lookupText_cons, ih]

theorem lookupText_putKey_of_ne {name other : String} (h : other ≠ name) (v : Value)
    (entries : List (Value × Value)) :
    lookupText other (putKey (.text name) v entries) = lookupText other entries := by
  induction entries with
  | nil => simp [putKey, lookupText, h.symm]
  | cons entry rest ih =>
    obtain ⟨k, w⟩ := entry
    by_cases hk : sameKey k (.text name)
    · have : k = .text name := sameKey_text_iff.mp hk
      subst this
      simp [putKey, sameKey, lookupText, h.symm]
    · simp [putKey, hk, lookupText_cons, ih]

theorem lookupText_filter_self (name : String) (entries : List (Value × Value)) :
    lookupText name (entries.filter fun entry => !sameKey entry.1 (.text name)) = none := by
  induction entries with
  | nil => rfl
  | cons entry rest ih =>
    obtain ⟨k, w⟩ := entry
    by_cases hk : sameKey k (.text name)
    · simpa [hk] using ih
    · simpa [hk, lookupText_cons] using ih

theorem lookupText_filter_of_ne {name other : String} (h : other ≠ name)
    (entries : List (Value × Value)) :
    lookupText other (entries.filter fun entry => !sameKey entry.1 (.text name)) =
      lookupText other entries := by
  induction entries with
  | nil => rfl
  | cons entry rest ih =>
    obtain ⟨k, w⟩ := entry
    by_cases hk : sameKey k (.text name)
    · have : k = .text name := sameKey_text_iff.mp hk
      subst this
      simpa [sameKey, lookupText, h.symm] using ih
    · by_cases ho : sameKey k (.text other)
      · simp [hk, lookupText_cons, ho]
      · simpa [hk, lookupText_cons, ho] using ih

theorem filter_putKey (name : String) (v : Value) (entries : List (Value × Value)) :
    (putKey (.text name) v entries).filter (fun entry => !sameKey entry.1 (.text name)) =
      entries.filter fun entry => !sameKey entry.1 (.text name) := by
  induction entries with
  | nil => simp [putKey, sameKey]
  | cons entry rest ih =>
    obtain ⟨k, w⟩ := entry
    by_cases hk : sameKey k (.text name)
    · simp [putKey, hk]
    · simp [putKey, hk, ih]

end Value

end Gatehouse
