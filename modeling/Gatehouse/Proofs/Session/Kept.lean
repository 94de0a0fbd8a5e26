import Gatehouse.Proofs.Value.Kept
import Gatehouse.Session

namespace Gatehouse

namespace Value

theorem alike_refl (v : Option Value) : Option.Rel Alike v v := by
  cases v with
  | none => exact .none
  | some v => exact .some (.refl v)

theorem mem_of_mem_putKey {key v : Value} {entries : List (Value × Value)} {e : Value × Value}
    (h : e ∈ putKey key v entries) :
    e ∈ entries ∨ e.2 = v ∧ (e.1 = key ∨ ∃ w, (e.1, w) ∈ entries) := by
  induction entries with
  | nil =>
    obtain rfl := List.mem_singleton.mp h
    exact Or.inr ⟨rfl, Or.inl rfl⟩
  | cons entry entries ih =>
    obtain ⟨k, w⟩ := entry
    rw [putKey] at h
    split at h
    next =>
      rcases List.mem_cons.mp h with rfl | h
      · exact Or.inr ⟨rfl, Or.inr ⟨w, List.mem_cons_self ..⟩⟩
      · exact Or.inl (List.mem_cons_of_mem _ h)
    next =>
      rcases List.mem_cons.mp h with rfl | h
      · exact Or.inl (List.mem_cons_self ..)
      · rcases ih h with h | ⟨hv, h | ⟨w', h⟩⟩
        · exact Or.inl (List.mem_cons_of_mem _ h)
        · exact Or.inr ⟨hv, Or.inl h⟩
        · exact Or.inr ⟨hv, Or.inr ⟨w', List.mem_cons_of_mem _ h⟩⟩

theorem nodup_putKey {name : String} {v : Value} {entries : List (Value × Value)}
    (h : (entries.map Prod.fst).Nodup) : ((putKey (.text name) v entries).map Prod.fst).Nodup := by
  induction entries with
  | nil => simp [putKey]
  | cons entry entries ih =>
    obtain ⟨k, w⟩ := entry
    rw [List.map_cons, List.nodup_cons] at h
    rw [putKey]
    split
    next => simpa using h
    next hk =>
      rw [List.map_cons, List.nodup_cons]
      refine ⟨?_, ih h.2⟩
      intro hm
      obtain ⟨⟨k', v'⟩, he, rfl⟩ := List.mem_map.mp hm
      have hold : ∀ u, (k', u) ∈ entries → k' ∈ entries.map Prod.fst :=
        fun u hu => List.mem_map.mpr ⟨_, hu, rfl⟩
      rcases mem_of_mem_putKey he with he | ⟨_, he | ⟨u, he⟩⟩
      · exact h.1 (hold _ he)
      · exact hk (sameKey_text_iff.mpr he)
      · exact h.1 (hold _ he)

end Value

namespace Session

variable {s : Session}

/-- The keys are texts, each of them once, and so are the keys of every map in the session. -/
def IsKeyed (s : Session) : Prop := s.toValue.IsKeyed

/-- The session as it comes back from a cookie. One that cannot be kept leaves an empty one. -/
def kept (s : Session) : Session :=
  match s.toValue.stored with
  | .ok v => .ofValue v
  | .error _ => ∅

theorem isKeyed_iff : s.IsKeyed ↔
    (s.entries.map Prod.fst).Nodup ∧ ∀ e ∈ s.entries, e.1.IsText ∧ e.2.IsKeyed := by
  rw [IsKeyed, toValue, Value.IsKeyed, Value.entriesAreKeyed_iff]

theorem isKeyed_empty : (∅ : Session).IsKeyed := by
  rw [isKeyed_iff]
  exact ⟨List.nodup_nil, fun e he => absurd he List.not_mem_nil⟩

theorem IsKeyed.insert (h : s.IsKeyed) (name : String) {v : Value} (hv : v.IsKeyed) :
    (s.insert name v).IsKeyed := by
  rw [isKeyed_iff] at h ⊢
  refine ⟨Value.nodup_putKey h.1, fun e he => ?_⟩
  rcases Value.mem_of_mem_putKey he with he | ⟨hev, he | ⟨w, he⟩⟩
  · exact h.2 e he
  · exact ⟨⟨name, he⟩, by rwa [hev]⟩
  · exact ⟨(h.2 _ he).1, by rwa [hev]⟩

theorem IsKeyed.erase (h : s.IsKeyed) (name : String) : (s.erase name).IsKeyed := by
  rw [isKeyed_iff] at h ⊢
  have hsub : List.Sublist (s.erase name).entries s.entries := List.filter_sublist
  exact ⟨h.1.sublist (hsub.map Prod.fst), fun e he => h.2 e (hsub.mem he)⟩

theorem IsKeyed.get? (h : s.IsKeyed) {name : String} {v : Value} (hv : s.get? name = some v) :
    v.IsKeyed := by
  rw [isKeyed_iff] at h
  exact (h.2 _ ((Value.lookupText_eq_some_iff h.1).mp hv)).2

theorem kept_empty : (∅ : Session).kept = ∅ := rfl

theorem IsKeyed.stored (h : s.IsKeyed) : s.toValue.stored = .ok s.kept.toValue := by
  obtain ⟨w, hs, halike, _⟩ := Value.exists_stored h
  rw [kept, hs]
  cases halike with
  | refl => rfl
  | map => rfl

theorem IsKeyed.kept (h : s.IsKeyed) : s.kept.IsKeyed := by
  obtain ⟨w, hs, _, hw⟩ := Value.exists_stored h
  obtain rfl := Except.ok.inj (h.stored.symm.trans hs)
  exact hw

theorem IsKeyed.get?_kept (h : s.IsKeyed) (name : String) :
    s.kept.get? name = (s.get? name).bind fun v => v.stored.toOption :=
  Value.lookupText_of_stored h h.stored name

/-- What a session holds under a name comes back from a cookie as it was, but for the order of the
entries of maps. -/
theorem IsKeyed.alike_kept (h : s.IsKeyed) (name : String) :
    Option.Rel Value.Alike (s.get? name) (s.kept.get? name) := by
  rw [h.get?_kept]
  cases hv : s.get? name with
  | none => exact .none
  | some v =>
    obtain ⟨w, hs, halike, _⟩ := Value.exists_stored (h.get? hv)
    rw [Option.bind_some, hs]
    exact .some halike

end Session

end Gatehouse
