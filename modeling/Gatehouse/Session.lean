import Gatehouse.Value.Key

namespace Gatehouse

/-- The keys are texts as a rule, but any key will do. -/
structure Session where
  entries : List (Value × Value)
  deriving Repr

namespace Session

def empty : Session := ⟨[]⟩

instance : EmptyCollection Session := ⟨empty⟩
instance : Inhabited Session := ⟨empty⟩

def isEmpty (s : Session) : Bool := s.entries.isEmpty

/-- What the session holds under a text key. -/
def get? (s : Session) (name : String) : Option Value := Value.lookupText name s.entries

def has (s : Session) (name : String) : Bool := (s.get? name).isSome

def put (s : Session) (key v : Value) : Session := ⟨Value.putKey key v s.entries⟩

def remove (s : Session) (key : Value) : Session :=
  ⟨s.entries.filter fun entry => !Value.sameKey entry.1 key⟩

def insert (s : Session) (name : String) (v : Value) : Session := s.put (.text name) v

def erase (s : Session) (name : String) : Session := s.remove (.text name)

def toValue (s : Session) : Value := .map s.entries

/-- The session that has the entries of a map; any other value is no session and stands for an empty
one. -/
def ofValue : Value → Session
  | .map entries => ⟨entries⟩
  | _ => ∅

@[simp] theorem get?_empty (name : String) : (∅ : Session).get? name = none := rfl

@[simp] theorem get?_insert_self (s : Session) (name : String) (v : Value) :
    (s.insert name v).get? name = some v :=
  Value.lookupText_putKey_self name v s.entries

theorem get?_insert_of_ne {name other : String} (h : other ≠ name) (s : Session) (v : Value) :
    (s.insert name v).get? other = s.get? other :=
  Value.lookupText_putKey_of_ne h v s.entries

@[simp] theorem get?_erase_self (s : Session) (name : String) : (s.erase name).get? name = none :=
  Value.lookupText_filter_self name s.entries

theorem get?_erase_of_ne {name other : String} (h : other ≠ name) (s : Session) :
    (s.erase name).get? other = s.get? other :=
  Value.lookupText_filter_of_ne h s.entries

theorem erase_of_get?_eq_none {s : Session} {name : String} (h : s.get? name = none) :
    s.erase name = s := by
  obtain ⟨entries⟩ := s
  refine congrArg Session.mk (List.filter_eq_self.mpr fun e he => ?_)
  induction entries with
  | nil => exact absurd he List.not_mem_nil
  | cons entry rest ih =>
    obtain ⟨key, v⟩ := entry
    rw [get?, Value.lookupText_cons] at h
    split at h
    next => simp at h
    next hk =>
      rcases List.mem_cons.mp he with rfl | he
      · simpa using hk
      · exact ih h he

/-- What is put under a key does not matter once the key is gone. -/
theorem erase_insert (s : Session) (name : String) (v : Value) :
    (s.insert name v).erase name = s.erase name :=
  congrArg Session.mk (Value.filter_putKey name v s.entries)

end Session

end Gatehouse
