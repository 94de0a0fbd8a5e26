import Gatehouse.Proofs.Change

namespace Gatehouse

open Relation (ReflTransGen)

namespace Session

variable {site : Site} {request : Request} {s t : Session}

theorem username?_congr (h : t.get? recordKey = s.get? recordKey) : t.username? = s.username? := by
  rw [username?, record?, h]
  rfl

theorem username?_eq_none_iff : s.username? = none ↔ s.record? = none := by
  constructor
  · intro h
    cases hr : s.record? with
    | none => rfl
    | some v =>
      unfold record? at hr
      split at hr
      next entries _ =>
        split at hr
        next name _ hname =>
          obtain rfl := Option.some.inj hr
          have hrecord : s.record? = some (.map entries) := by simp_all [record?]
          simp [username?, hrecord, Value.field?, hname, Value.text?] at h
        next => simp at hr
      next => simp at hr
  · intro h
    rw [username?, h]
    rfl

theorem username?_of_loginRecord {username : String}
    (h : s.get? recordKey = some (loginRecord (.text username))) :
    s.username? = some username := by
  have hrecord : s.record? = some (loginRecord (.text username)) := by
    rw [record?, h]
    rfl
  rw [username?, hrecord]
  rfl

theorem get?_withRecord (s : Session) (username : Value) :
    (s.withRecord username).get? recordKey = some (loginRecord username) :=
  get?_insert_self s recordKey _

theorem get?_withToken (s : Session) (token : String) :
    (s.withToken token).get? recordKey = s.get? recordKey := by
  rw [withToken, get?_insert_of_ne (by decide), get?_insert_of_ne (by decide)]

theorem get?_addNotice {category message : String} (h : s.addNotice category message = .ok t)
    {name : String} (hne : name ≠ noticesKey) : t.get? name = s.get? name := by
  unfold addNotice at h
  dsimp only at h
  split at h
  next =>
    rw [← Except.ok.inj h]
    exact get?_insert_of_ne hne _ _
  next =>
    rw [← Except.ok.inj h]
    exact get?_insert_of_ne hne _ _
  next => simp at h

theorem get?_kept_erase {s : Session} (hk : s.IsKeyed) {name : String} (hne : name ≠ orderKey)
    (hv : ∀ v, s.get? name = some v → v.stored = .ok v) :
    (s.erase orderKey).kept.get? name = s.get? name := by
  rw [(hk.erase orderKey).get?_kept, get?_erase_of_ne hne]
  cases hg : s.get? name with
  | none => rfl
  | some v =>
    rw [Option.bind_some, hv v hg]
    rfl

theorem View.isKeyed (h : View site request s t) (hs : s.IsKeyed) : t.IsKeyed := by
  cases h with
  | token visitor =>
    have huser := hs.insert userKey (Value.isKeyed_text visitor)
    exact huser.insert freshKey (Value.isKeyed_bool false)
  | vouched => exact hs.insert recordKey (Value.isKeyed_loginRecord _)
  | noticesTaken => exact hs.erase noticesKey

theorem isKeyed_addNotice {category message : String} (h : s.addNotice category message = .ok t)
    (hs : s.IsKeyed) : t.IsKeyed := by
  unfold addNotice at h
  dsimp only at h
  split at h
  next =>
    obtain rfl := Except.ok.inj h
    exact hs.insert noticesKey (by simp [Value.IsKeyed, Value.AreKeyed])
  next items hitems =>
    obtain rfl := Except.ok.inj h
    have hkeyed : Value.AreKeyed items := by simpa [Value.IsKeyed] using hs.get? hitems
    exact hs.insert noticesKey
      (by simp [Value.IsKeyed, Value.AreKeyed, Value.areKeyed_append, hkeyed])
  next => simp at h

theorem Change.isKeyed (h : Change site request s t) (hs : s.IsKeyed) : t.IsKeyed := by
  cases h with
  | viewed h => exact h.isKeyed hs
  | submitted => exact hs.insert recordKey (Value.isKeyed_loginRecord _)
  | dismissed => exact hs.erase recordKey
  | notified h => exact isKeyed_addNotice h hs

theorem isKeyed_of_changes (h : ReflTransGen (Change site request) s t) (hs : s.IsKeyed) :
    t.IsKeyed := by
  induction h with
  | refl => exact hs
  | tail _ hstep ih => exact hstep.isKeyed ih

theorem View.isPlain (h : View site request s t) (hs : s.IsPlain) : t.IsPlain := by
  cases h with
  | token visitor =>
    have huser := hs.insert userKey (Value.isKeyed_text visitor) (by decide) (by decide)
    exact huser.insert freshKey (Value.isKeyed_bool false) (by decide) (by decide)
  | vouched => exact hs.withRecord _
  | noticesTaken => exact hs.erase noticesKey

theorem Change.isPlain (h : Change site request s t) (hs : s.IsPlain) : t.IsPlain := by
  cases h with
  | viewed h => exact h.isPlain hs
  | submitted => exact hs.withRecord _
  | dismissed => exact hs.erase recordKey
  | notified h =>
    obtain ⟨u, hu, hplain, _⟩ := hs.addNotice_ok _ _
    obtain rfl := Except.ok.inj (hu.symm.trans h)
    exact hplain

theorem isPlain_of_changes (h : ReflTransGen (Change site request) s t) (hs : s.IsPlain) :
    t.IsPlain := by
  induction h with
  | refl => exact hs
  | tail _ hstep ih => exact hstep.isPlain ih

/-- A page changes the record only where there is no valid one and the header carries the configured
pair. -/
theorem View.record (h : View site request s t) :
    t.get? recordKey = s.get? recordKey ∨
      s.username? = none ∧ ∃ u p, request.basicPair? = .ok (some (u, p)) ∧
        site.gate.configured = ⟨.text u, .text p⟩ ∧
        t.get? recordKey = some (loginRecord (.text u)) := by
  cases h with
  | token visitor => exact Or.inl (get?_withToken s visitor)
  | vouched hnone hcarried hconf =>
    exact Or.inr ⟨hnone, _, _, hcarried, hconf, get?_withRecord _ _⟩
  | noticesTaken => exact Or.inl (get?_erase_of_ne (by decide) _)

theorem record_of_views (h : ReflTransGen (View site request) s t) :
    t.get? recordKey = s.get? recordKey ∨
      s.username? = none ∧ ∃ u p, request.basicPair? = .ok (some (u, p)) ∧
        site.gate.configured = ⟨.text u, .text p⟩ ∧
        t.get? recordKey = some (loginRecord (.text u)) := by
  induction h with
  | refl => exact Or.inl rfl
  | tail _ hstep ih =>
    rcases hstep.record with hsame | ⟨hnone, hvouched⟩
    · rw [hsame]
      exact ih
    · rcases ih with hs | ⟨hs, _⟩
      · exact Or.inr ⟨by rw [← username?_congr hs, hnone], hvouched⟩
      · exact Or.inr ⟨hs, hvouched⟩

/-- A record that was not there before is that of the configured pair, which the request carries. -/
theorem Change.record (h : Change site request s t) :
    t.get? recordKey = s.get? recordKey ∨
      (∃ u p, site.Carries request u p ∧ site.gate.configured = ⟨.text u, .text p⟩ ∧
        t.get? recordKey = some (loginRecord (.text u))) ∨
      (Route.of (site.asked request) request.path = .endpoint .logout ∧
        t.get? recordKey = none) := by
  cases h with
  | viewed h =>
    rcases h.record with hsame | ⟨_, u, p, hcarried, hconf, hr⟩
    · exact Or.inl hsame
    · exact Or.inr (Or.inl ⟨u, p, Or.inr hcarried, hconf, hr⟩)
  | submitted hcarried hconf =>
    exact Or.inr (Or.inl ⟨_, _, hcarried, hconf, get?_withRecord _ _⟩)
  | dismissed hroute => exact Or.inr (Or.inr ⟨hroute, get?_erase_self _ _⟩)
  | notified h => exact Or.inl (get?_addNotice h (by decide))

theorem record_of_changes (h : ReflTransGen (Change site request) s t) :
    t.get? recordKey = s.get? recordKey ∨
      (∃ u p, site.Carries request u p ∧ site.gate.configured = ⟨.text u, .text p⟩ ∧
        t.get? recordKey = some (loginRecord (.text u))) ∨
      (Route.of (site.asked request) request.path = .endpoint .logout ∧
        t.get? recordKey = none) := by
  induction h with
  | refl => exact Or.inl rfl
  | tail _ hstep ih =>
    rcases hstep.record with hsame | hother
    · rw [hsame]
      exact ih
    · exact Or.inr hother

end Session

end Gatehouse
