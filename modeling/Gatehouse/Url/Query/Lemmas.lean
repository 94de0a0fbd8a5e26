import Gatehouse.Url.Percent.Lemmas
import Gatehouse.Url.Query

namespace Gatehouse.Query

theorem component_encodePlus {keep : Char → Bool} (hp : keep '%' = false) (hs : keep '+' = false)
    (cs : List Char) : component (Percent.encodePlus keep cs) = String.ofList cs := by
  rw [component, Percent.decodeKeeping, Percent.pieces_encodePlus hp hs, List.flatMap_map]
  simp [Percent.restore]

theorem component_writeComponent (s : String) : component (writeComponent s) = s := by
  rw [writeComponent, component_encodePlus rfl rfl, String.ofList_toList]

theorem upper_isAlphanum {n : Nat} (h : n < 16) : (Hex.upper n).isAlphanum := by
  have : ∀ m : Fin 16, (Hex.upper m).isAlphanum := by decide
  exact this ⟨n, h⟩

/-- Of the marks only four and those of the encoding itself are found in a component. -/
theorem mem_writeComponent {s : String} {c : Char} (h : c ∈ writeComponent s) :
    Percent.isUnreserved c ∨ c = '+' ∨ c = '%' := by
  obtain ⟨d, _, hd⟩ := List.mem_flatMap.mp h
  split at hd
  next => exact Or.inr (Or.inl (List.mem_singleton.mp hd))
  next =>
    unfold Percent.encodeChar at hd
    split at hd
    next hk =>
      rw [List.mem_singleton.mp hd]
      exact Or.inl (by simpa using hk)
    next =>
      obtain ⟨b, _, hb⟩ := List.mem_flatMap.mp hd
      have hlt := UInt8.toNat_lt b
      simp only [Percent.escape, List.mem_cons, List.not_mem_nil, or_false] at hb
      rcases hb with rfl | rfl | rfl
      · exact Or.inr (Or.inr rfl)
      · exact Or.inl (by
          simp [Percent.isUnreserved, upper_isAlphanum (show b.toNat / 16 < 16 by omega)])
      · exact Or.inl (by
          simp [Percent.isUnreserved, upper_isAlphanum (show b.toNat % 16 < 16 by omega)])

theorem equals_not_mem_writeComponent (s : String) : '=' ∉ writeComponent s := by
  intro h
  rcases mem_writeComponent h with h | h | h <;> revert h <;> decide

theorem and_not_mem_writeComponent (s : String) : '&' ∉ writeComponent s := by
  intro h
  rcases mem_writeComponent h with h | h | h <;> revert h <;> decide

theorem pair_writePair (p : String × String) : pair (writePair p) = p := by
  rw [pair, writePair, Text.cutAt_append_sep (equals_not_mem_writeComponent p.1)]
  simp [component_writeComponent]

theorem and_not_mem_writePair (p : String × String) : '&' ∉ writePair p := by
  simp only [writePair, List.mem_append, List.mem_cons, not_or]
  exact ⟨and_not_mem_writeComponent _, by decide, and_not_mem_writeComponent _⟩

theorem read_write (pairs : List (String × String)) : read (write pairs) = pairs := by
  cases pairs with
  | nil => rfl
  | cons p rest =>
    have separate : ∀ piece ∈ (p :: rest).map writePair, '&' ∉ piece := by
      intro piece hp
      obtain ⟨q, _, rfl⟩ := List.mem_map.mp hp
      exact and_not_mem_writePair q
    rw [read, write, Text.splitAt_intercalate (by simp) separate, List.filter_eq_self.mpr,
      List.map_map]
    · simp [Function.comp_def, pair_writePair]
    · intro piece hp
      obtain ⟨q, _, rfl⟩ := List.mem_map.mp hp
      simp [writePair]

end Gatehouse.Query
