namespace Gatehouse

structure Table (α : Type) where
  rows : List (String × α)
  deriving Repr

namespace Table

variable {α : Type}

def empty : Table α := ⟨[]⟩

instance : EmptyCollection (Table α) := ⟨empty⟩
instance : Inhabited (Table α) := ⟨empty⟩

def getRow? (name : String) : List (String × α) → Option α
  | [] => none
  | (n, a) :: rest => if n = name then some a else getRow? name rest

def insertRow (name : String) (a : α) : List (String × α) → List (String × α)
  | [] => [(name, a)]
  | (n, b) :: rest => if n = name then (n, a) :: rest else (n, b) :: insertRow name a rest

def get? (t : Table α) (name : String) : Option α := getRow? name t.rows

/-- A name already there keeps its place. -/
def insert (t : Table α) (name : String) (a : α) : Table α := ⟨insertRow name a t.rows⟩

def erase (t : Table α) (name : String) : Table α := ⟨t.rows.filter fun row => row.1 ≠ name⟩

def getD (t : Table α) (name : String) (a : α) : α := (t.get? name).getD a

/-- Later rows win over earlier ones of the same name. -/
def ofList (rows : List (String × α)) : Table α :=
  rows.foldl (fun t row => t.insert row.1 row.2) ∅

@[simp] theorem get?_empty (name : String) : (∅ : Table α).get? name = none := rfl

theorem getRow?_insertRow_self (name : String) (a : α) (rows : List (String × α)) :
    getRow? name (insertRow name a rows) = some a := by
  induction rows with
  | nil => simp [insertRow, getRow?]
  | cons row rest ih =>
    obtain ⟨n, b⟩ := row
    by_cases h : n = name
    · simp [insertRow, getRow?, h]
    · simp [insertRow, getRow?, h, ih]

theorem getRow?_insertRow_of_ne {name other : String} (h : other ≠ name) (a : α)
    (rows : List (String × α)) : getRow? other (insertRow name a rows) = getRow? other rows := by
  induction rows with
  | nil => simp [insertRow, getRow?, h.symm]
  | cons row rest ih =>
    obtain ⟨n, b⟩ := row
    by_cases hn : n = name
    · subst hn
      simp [insertRow, getRow?, h.symm]
    · simp [insertRow, getRow?, hn, ih]

@[simp] theorem get?_insert_self (t : Table α) (name : String) (a : α) :
    (t.insert name a).get? name = some a :=
  getRow?_insertRow_self name a t.rows

theorem get?_insert_of_ne {name other : String} (h : other ≠ name) (t : Table α) (a : α) :
    (t.insert name a).get? other = t.get? other :=
  getRow?_insertRow_of_ne h a t.rows

@[simp] theorem get?_erase_self (t : Table α) (name : String) :
    (t.erase name).get? name = none := by
  obtain ⟨rows⟩ := t
  show getRow? name (rows.filter fun row => row.1 ≠ name) = none
  induction rows with
  | nil => rfl
  | cons row rest ih =>
    obtain ⟨n, b⟩ := row
    by_cases h : n = name
    · simpa [h] using ih
    · simpa [h, getRow?] using ih

theorem get?_erase_of_ne {name other : String} (h : other ≠ name) (t : Table α) :
    (t.erase name).get? other = t.get? other := by
  obtain ⟨rows⟩ := t
  show getRow? other (rows.filter fun row => row.1 ≠ name) = getRow? other rows
  induction rows with
  | nil => rfl
  | cons row rest ih =>
    obtain ⟨n, b⟩ := row
    by_cases hn : n = name
    · have hne : n ≠ other := fun e => h (e ▸ hn)
      simpa [hn, getRow?, hne, h.symm] using ih
    · by_cases ho : n = other
      · simp [getRow?, ho, h]
      · simpa [hn, getRow?, ho] using ih

end Table

end Gatehouse
