import Gatehouse.Proofs.Form
import Gatehouse.Proofs.Gate.Verdict
import Mathlib.Logic.Relation

namespace Gatehouse

namespace Query

variable {name : String} {names : List String} {p : String × String}
  {front rest pairs others : List (String × String)}

theorem first?_cons (name : String) (p : String × String) (rest : List (String × String)) :
    first? name (p :: rest) = if p.1 = name then some p.2 else first? name rest := by
  by_cases h : p.1 = name <;> simp [first?, h]

theorem first?_filter (keep : String × String → Bool) (h : ∀ q, q.1 = name → keep q = true) :
    first? name (pairs.filter keep) = first? name pairs := by
  have hsame : (fun q : String × String => keep q && decide (q.1 = name)) =
      fun q => decide (q.1 = name) := by
    funext q
    by_cases hq : q.1 = name
    · simp [h q hq]
    · simp [hq]
  rw [first?, List.find?_filter, first?]
  exact congrArg _ (congrArg (List.find? · pairs) (by simpa using hsame))

/-- The second list has one pair more, which is not the first of any of these names. -/
inductive Pads (names : List String) :
    List (String × String) → List (String × String) → Prop where
  | mk (front rest : List (String × String)) {p : String × String}
    (h : p.1 ∉ names ∨ ∃ q ∈ front, q.1 = p.1) : Pads names (front ++ rest) (front ++ p :: rest)

theorem first?_of_pads (h : Pads names pairs others) (hname : name ∈ names) :
    first? name others = first? name pairs := by
  cases h with
  | @mk front rest p h =>
    simp only [first?, List.find?_append]
    by_cases hp : p.1 = name
    · obtain ⟨q, hmem, hq⟩ := h.resolve_left fun hnot => hnot (hp ▸ hname)
      have hfound : (front.find? fun q => decide (q.1 = name)).isSome := by
        rw [List.find?_isSome]
        exact ⟨q, hmem, by simp [hq, hp]⟩
      obtain ⟨first, hfirst⟩ := Option.isSome_iff_exists.mp hfound
      simp [hfirst]
    · simp [hp]

/-- However many such pairs are put in and taken out, the first value of a name stays. -/
theorem first?_of_eqvGen (h : Relation.EqvGen (Pads names) pairs others) (hname : name ∈ names) :
    first? name others = first? name pairs := by
  induction h with
  | rel _ _ hpads => exact first?_of_pads hpads hname
  | refl => rfl
  | symm _ _ _ ih => exact ih.symm
  | trans _ _ _ _ _ ih ih' => exact ih'.trans ih

end Query

namespace Request

/-- The name under which a form has a field of the login. -/
def fieldName (field : String) : String := "session[" ++ field ++ "]"

theorem bracketed?_eq_some_iff {name field : String} :
    bracketed? name = some field ↔ name = fieldName field := by
  rw [← String.toList_inj, fieldName, String.toList_append, String.toList_append,
    List.append_assoc]
  unfold bracketed?
  constructor
  · intro h
    split at h
    next rest hrest =>
      split at h
      next hlast =>
        obtain ⟨front, rfl⟩ := List.getLast?_eq_some_iff.mp hlast
        obtain rfl := Option.some.inj h
        rw [Text.after?_eq_some_iff.mp hrest, List.dropLast_concat]
        simp
      next => simp at h
    next => simp at h
  · intro h
    have hrest : Text.after? "session[".toList name.toList = some (field.toList ++ "]".toList) :=
      Text.after?_eq_some_iff.mpr h
    have hbracket : "]".toList = [']'] := rfl
    rw [hrest, hbracket]
    simp

theorem first?_firsts (name : String) (pairs : List (String × String)) :
    Query.first? name (firsts pairs) = Query.first? name pairs := by
  induction pairs with
  | nil => rfl
  | cons p rest ih =>
    rw [firsts, Query.first?_cons, Query.first?_cons]
    split
    next => rfl
    next hne =>
      rw [Query.first?_filter _ fun q hq => by simp [hq, Ne.symm hne], ih]

/-- Fields as a login payload has them. -/
def fieldEntries (fields : List (String × String)) : List (Datum × Datum) :=
  fields.map fun (field, v) => (.text field, .text v)

theorem lookupText_fieldEntries (field : String) (pairs : List (String × String)) :
    Datum.lookupText field (fieldEntries (pairs.filterMap fun (name, value) =>
        (bracketed? name).map fun n => (n, value))) =
      (Query.first? (fieldName field) pairs).map .text := by
  induction pairs with
  | nil => rfl
  | cons p rest ih =>
    obtain ⟨name, value⟩ := p
    rw [Query.first?_cons]
    cases hb : bracketed? name with
    | none =>
      have hne : name ≠ fieldName field := by
        intro h
        rw [bracketed?_eq_some_iff.mpr h] at hb
        cases hb
      rw [if_neg hne, ← ih]
      simp [hb]
    | some n =>
      have hname := bracketed?_eq_some_iff.mp hb
      by_cases hn : n = field
      · subst hn hname
        rw [if_pos rfl, List.filterMap_cons]
        simp only [hb, Option.map_some, fieldEntries, List.map_cons, Datum.lookupText, if_pos]
      · have hne : name ≠ fieldName field := by
          intro h
          rw [bracketed?_eq_some_iff.mpr h] at hb
          exact hn (Option.some.inj hb).symm
        rw [if_neg hne, ← ih]
        simp [hb, hn, fieldEntries, Datum.lookupText]

variable {r : Request} {u p : String}

/-- What is read for a field is the first value under its name. -/
theorem lookupText_formFields (r : Request) (field : String) :
    Datum.lookupText field (fieldEntries r.formFields) =
      (Query.first? (fieldName field) r.formPairs).map .text := by
  rw [formFields, lookupText_fieldEntries, first?_firsts]

theorem formPayload_of_ne (h : r.formFields ≠ []) :
    r.formPayload = .map [(.text "session", .map (fieldEntries r.formFields))] := by
  unfold formPayload
  split
  next hnone => exact absurd hnone h
  next =>
    simp [Datum.ofFields, fieldEntries, Function.comp_def]

theorem formFields_eq_nil_iff : r.formFields = [] ↔
    ∀ field, Query.first? (fieldName field) r.formPairs = none := by
  constructor
  · intro h field
    have hlookup := r.lookupText_formFields field
    rw [h] at hlookup
    exact Option.map_eq_none_iff.mp hlookup.symm
  · intro h
    cases hfields : r.formFields with
    | nil => rfl
    | cons first rest =>
      obtain ⟨field, v⟩ := first
      have hlookup := r.lookupText_formFields field
      rw [h field, hfields] at hlookup
      simp [fieldEntries, Datum.lookupText] at hlookup

theorem holds_formPayload (hu : Query.first? (fieldName "username") r.formPairs = some u)
    (hp : Query.first? (fieldName "password") r.formPairs = some p) :
    Submission.Holds r.formPayload ⟨.text u, .text p⟩ := by
  have hne : r.formFields ≠ [] := by
    intro h
    rw [formFields_eq_nil_iff.mp h "username"] at hu
    cases hu
  refine ⟨_, _, formPayload_of_ne hne, rfl, ?_, ?_, rfl, rfl⟩
  · rw [lookupText_formFields, hu]
    rfl
  · rw [lookupText_formFields, hp]
    rfl

/-- What is said to be missing where one of the two fields is: the fields of a login altogether, or a
text in one of them. -/
def formFlaw (r : Request) : Flaw := if r.formFields = [] then .noSession else .notTexts

theorem lacks_formPayload (h : Query.first? (fieldName "username") r.formPairs = none ∨
    Query.first? (fieldName "password") r.formPairs = none) :
    Submission.Lacks r.formPayload r.formFlaw := by
  unfold formFlaw
  split
  next hnone =>
    have hpayload : r.formPayload = .map [] := by rw [formPayload, hnone]
    exact ⟨[], hpayload, by simp [Datum.lookupText]⟩
  next hsome =>
    refine ⟨_, _, formPayload_of_ne hsome, rfl, ?_⟩
    intro u p hu hp
    rw [lookupText_formFields] at hu hp
    rcases h with hnone | hnone
    · simp [hnone] at hu
    · simp [hnone] at hp

end Request

end Gatehouse
