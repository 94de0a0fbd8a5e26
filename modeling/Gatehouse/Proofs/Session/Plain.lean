import Gatehouse.Gate.Basic
import Gatehouse.Proofs.Reply
import Gatehouse.Proofs.Session.Kept
import Gatehouse.Site.Notices

namespace Gatehouse

namespace Value

/-- A category and a message. -/
def IsNotice (v : Value) : Prop := ∃ category message, v = .list [.text category, .text message]

theorem isKeyed_notices {items : List Value} (h : ∀ v ∈ items, v.IsNotice) :
    (Value.list items).IsKeyed := by
  rw [IsKeyed]
  induction items with
  | nil => trivial
  | cons v items ih =>
    obtain ⟨category, message, rfl⟩ := h _ (List.mem_cons_self ..)
    refine ⟨?_, ih fun v hv => h v (List.mem_cons_of_mem _ hv)⟩
    simp [IsKeyed, AreKeyed]

theorem stored_notices {items : List Value} (h : ∀ v ∈ items, v.IsNotice) :
    (Value.list items).stored = .ok (.list items) := by
  have hitems : storedItems items = .ok items := by
    induction items with
    | nil => rfl
    | cons v items ih =>
      obtain ⟨category, message, rfl⟩ := h _ (List.mem_cons_self ..)
      have hv : (Value.list [.text category, .text message]).stored =
          .ok (.list [.text category, .text message]) := rfl
      rw [storedItems, hv, ih fun v hv => h v (List.mem_cons_of_mem _ hv)]
      rfl
  rw [stored, hitems]
  rfl

theorem isKeyed_loginRecord (username : String) : (loginRecord (.text username)).IsKeyed := by
  simp [loginRecord, ofFields, IsKeyed, EntriesAreKeyed, IsText]

/-- The record of a login is kept as it is, since its keys stand in order. -/
theorem stored_loginRecord (username : String) :
    (loginRecord (.text username)).stored = .ok (loginRecord (.text username)) := rfl

end Value

theorem Notice.ofValue_ok {v : Value} (h : v.IsNotice) :
    ∃ notice, Notice.ofValue v = .ok notice := by
  obtain ⟨category, message, rfl⟩ := h
  exact ⟨_, rfl⟩

theorem Notice.ofValues_ok {items : List Value} (h : ∀ v ∈ items, v.IsNotice) :
    ∃ notices, Notice.ofValues items = .ok notices := by
  induction items with
  | nil => exact ⟨[], rfl⟩
  | cons v items ih =>
    obtain ⟨notice, hn⟩ := Notice.ofValue_ok (h v (List.mem_cons_self ..))
    obtain ⟨notices, hs⟩ := ih fun v hv => h v (List.mem_cons_of_mem _ hv)
    exact ⟨notice :: notices, by rw [Notice.ofValues, hn, hs]; rfl⟩

namespace Session

/-- A session as the site makes them. -/
structure IsPlain (s : Session) : Prop where
  keyed : s.IsKeyed
  unordered : s.get? orderKey = none
  notices : ∀ v, s.get? noticesKey = some v → ∃ items, v = .list items ∧ ∀ i ∈ items, i.IsNotice

variable {s : Session}

theorem isPlain_empty : (∅ : Session).IsPlain where
  keyed := isKeyed_empty
  unordered := rfl
  notices := fun v hv => by simp at hv

theorem IsPlain.insert (h : s.IsPlain) (name : String) {v : Value} (hv : v.IsKeyed)
    (ho : name ≠ orderKey) (hn : name ≠ noticesKey) : (s.insert name v).IsPlain where
  keyed := h.keyed.insert name hv
  unordered := by rw [get?_insert_of_ne ho.symm, h.unordered]
  notices := fun w hw => h.notices w (by rwa [get?_insert_of_ne hn.symm] at hw)

theorem IsPlain.erase (h : s.IsPlain) (name : String) : (s.erase name).IsPlain where
  keyed := h.keyed.erase name
  unordered := by
    by_cases ho : name = orderKey
    · rw [ho, get?_erase_self]
    · rw [get?_erase_of_ne (Ne.symm ho), h.unordered]
  notices := fun w hw => by
    by_cases hn : name = noticesKey
    · rw [hn, get?_erase_self] at hw
      simp at hw
    · rw [get?_erase_of_ne (Ne.symm hn)] at hw
      exact h.notices w hw

theorem IsPlain.kept (h : s.IsPlain) : s.kept.IsPlain where
  keyed := h.keyed.kept
  unordered := by rw [h.keyed.get?_kept, h.unordered, Option.bind_none]
  notices := fun w hw => by
    rw [h.keyed.get?_kept] at hw
    obtain ⟨v, hv, hw⟩ := Option.bind_eq_some_iff.mp hw
    obtain ⟨items, rfl, hitems⟩ := h.notices v hv
    rw [Value.stored_notices hitems] at hw
    exact ⟨items, (Option.some.inj hw).symm, hitems⟩

theorem IsPlain.withRecord (h : s.IsPlain) (username : String) :
    (s.withRecord (.text username)).IsPlain :=
  h.insert recordKey (Value.isKeyed_loginRecord username) (by decide) (by decide)

/-- The notices of the site can always be shown. -/
theorem IsPlain.takeNotices_ok (h : s.IsPlain) : ∃ notices, s.takeNotices.result = .ok notices := by
  unfold takeNotices
  split
  next => exact ⟨[], rfl⟩
  next waiting hw =>
    obtain ⟨items, rfl, hitems⟩ := h.notices waiting hw
    exact Notice.ofValues_ok hitems

/-- One notice more can always be added. -/
theorem IsPlain.addNotice_ok (h : s.IsPlain) (category message : String) :
    ∃ t, s.addNotice category message = .ok t ∧ t.IsPlain ∧
      ∀ name ≠ noticesKey, t.get? name = s.get? name := by
  have hplain : ∀ items : List Value, (∀ i ∈ items, i.IsNotice) →
      (s.insert noticesKey (.list items)).IsPlain := fun items hitems =>
    { keyed := h.keyed.insert noticesKey (Value.isKeyed_notices hitems)
      unordered := by rw [get?_insert_of_ne (by decide), h.unordered]
      notices := fun w hw => by
        rw [get?_insert_self] at hw
        exact ⟨items, (Option.some.inj hw).symm, hitems⟩ }
  have hnew : Value.IsNotice (.list [.text category, .text message]) := ⟨category, message, rfl⟩
  cases hw : s.get? noticesKey with
  | none =>
    refine ⟨s.insert noticesKey (.list [.list [.text category, .text message]]), ?_,
      hplain _ ?_, fun name hne => get?_insert_of_ne hne _ _⟩
    · simp only [addNotice, hw]
    · intro i hi
      rwa [List.mem_singleton.mp hi]
  | some waiting =>
    obtain ⟨items, rfl, hitems⟩ := h.notices waiting hw
    refine ⟨s.insert noticesKey (.list (items ++ [.list [.text category, .text message]])), ?_,
      hplain _ ?_, fun name hne => get?_insert_of_ne hne _ _⟩
    · simp only [addNotice, hw]
    · intro i hi
      rcases List.mem_append.mp hi with hi | hi
      · exact hitems i hi
      · rwa [List.mem_singleton.mp hi]

end Session

end Gatehouse
