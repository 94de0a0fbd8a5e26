import Gatehouse.Proofs.History

namespace Gatehouse

open Relation (ReflTransGen)

/-- What a logout leaves in a session. -/
def Value.logoutNotice : Value := .list [.text "info", .text Site.logoutNotice]

/-- The notice of a logout as it is shown. -/
def Notice.ofLogout : Notice := ⟨"alert alert-info", Site.logoutNotice⟩

theorem Notice.ofValues_replicate (n : Nat) :
    Notice.ofValues (List.replicate n Value.logoutNotice) =
      .ok (List.replicate n Notice.ofLogout) := by
  induction n with
  | zero => rfl
  | succ n ih =>
    have hvalue : Notice.ofValue Value.logoutNotice = .ok Notice.ofLogout := rfl
    rw [List.replicate_succ, Notice.ofValues, hvalue, ih]
    rfl

namespace Session

variable {site : Site} {request : Request} {s t : Session}

/-- No notices wait but those of logouts. -/
def HasOwnNotices (s : Session) : Prop :=
  ∀ v, s.get? noticesKey = some v → ∃ n, v = .list (List.replicate n Value.logoutNotice)

theorem hasOwnNotices_of_none (h : s.get? noticesKey = none) : s.HasOwnNotices := by
  intro v hv
  simp [h] at hv

theorem HasOwnNotices.congr (h : s.HasOwnNotices) (hn : t.get? noticesKey = s.get? noticesKey) :
    t.HasOwnNotices := fun v hv => h v (hn ▸ hv)

theorem HasOwnNotices.addNotice (h : s.HasOwnNotices)
    (ht : s.addNotice "info" Site.logoutNotice = .ok t) : t.HasOwnNotices := by
  unfold Session.addNotice at ht
  dsimp only at ht
  intro v hv
  split at ht
  next =>
    rw [← Except.ok.inj ht, get?_insert_self] at hv
    exact ⟨1, (Option.some.inj hv).symm⟩
  next items hitems =>
    obtain ⟨n, hn⟩ := h _ hitems
    rw [← Except.ok.inj ht, get?_insert_self, Value.list.inj hn] at hv
    refine ⟨n + 1, ?_⟩
    rw [List.replicate_succ']
    exact (Option.some.inj hv).symm
  next => simp at ht

theorem Change.hasOwnNotices (h : Change site request s t) (hs : s.HasOwnNotices) :
    t.HasOwnNotices := by
  cases h with
  | viewed h =>
    cases h with
    | token visitor =>
      refine hs.congr ?_
      rw [withToken, get?_insert_of_ne (by decide), get?_insert_of_ne (by decide)]
    | vouched => exact hs.congr (get?_insert_of_ne (by decide) _ _)
    | noticesTaken => exact hasOwnNotices_of_none (get?_erase_self _ _)
  | submitted => exact hs.congr (get?_insert_of_ne (by decide) _ _)
  | dismissed => exact hs.congr (get?_erase_of_ne (by decide) _)
  | notified h => exact hs.addNotice h

theorem hasOwnNotices_of_changes (h : ReflTransGen (Change site request) s t)
    (hs : s.HasOwnNotices) : t.HasOwnNotices := by
  induction h with
  | refl => exact hs
  | tail _ hstep ih => exact hstep.hasOwnNotices ih

theorem HasOwnNotices.stored (h : s.HasOwnNotices) {v : Value} (hv : s.get? noticesKey = some v) :
    v.stored = .ok v := by
  obtain ⟨n, rfl⟩ := h v hv
  apply Value.stored_notices
  intro i hi
  exact ⟨"info", Site.logoutNotice, List.eq_of_mem_replicate hi⟩

theorem HasOwnNotices.kept (h : s.HasOwnNotices) (hk : s.IsKeyed) :
    (s.erase orderKey).kept.HasOwnNotices :=
  h.congr (get?_kept_erase hk (by decide) fun _ hv => h.stored hv)

/-- How many notices wait in a session. -/
def waiting (s : Session) : Nat :=
  match s.get? noticesKey with
  | some (.list items) => items.length
  | _ => 0

theorem waiting_congr (h : t.get? noticesKey = s.get? noticesKey) : t.waiting = s.waiting := by
  rw [waiting, waiting, h]

theorem waiting_of_none (h : s.get? noticesKey = none) : s.waiting = 0 := by
  rw [waiting, h]

theorem waiting_addNotice {category message : String} (ht : s.addNotice category message = .ok t) :
    t.waiting = s.waiting + 1 := by
  unfold Session.addNotice at ht
  dsimp only at ht
  split at ht
  next hnone =>
    rw [← Except.ok.inj ht, waiting_of_none hnone, waiting, get?_insert_self]
    rfl
  next items hitems =>
    rw [← Except.ok.inj ht, waiting, waiting, get?_insert_self, hitems]
    exact List.length_append
  next => simp at ht

/-- All notices that wait can be shown, and they are all the same. -/
theorem HasOwnNotices.takeNotices (h : s.HasOwnNotices) :
    s.takeNotices.result = .ok (List.replicate s.waiting Notice.ofLogout) := by
  unfold Session.takeNotices
  split
  next hnone =>
    rw [waiting_of_none hnone]
    rfl
  next items hitems =>
    obtain ⟨n, rfl⟩ := h items hitems
    have hwaiting : s.waiting = n := by
      rw [waiting, hitems]
      exact List.length_replicate
    rw [hwaiting]
    exact Notice.ofValues_replicate n

theorem HasOwnNotices.taken (h : s.HasOwnNotices) {notices : List Notice}
    (ht : s.takeNotices.result = .ok notices) : ∀ notice ∈ notices, notice = Notice.ofLogout := by
  rw [h.takeNotices] at ht
  obtain rfl := Except.ok.inj ht
  exact fun notice hmem => List.eq_of_mem_replicate hmem

end Session

/-- No notices wait but those of logouts, whatever the host. -/
def Browser.HasOwnNotices (b : Browser) : Prop := ∀ host, (b.sessionAt host).HasOwnNotices

namespace Site

variable {site : Site} {request : Request} {b : Browser}

theorem hasOwnNotices_replyTo (h : site.settings.IsUsual) (request : Request)
    (hn : b.HasOwnNotices) (standing : Except Denial String) :
    (site.replyTo request b standing).session.HasOwnNotices :=
  Session.hasOwnNotices_of_changes (through_replyTo h request b standing).changes (hn _)

theorem hasOwnNotices_of_respond (h : site.settings.IsUsual) (hb : b.IsUsual)
    (hn : b.HasOwnNotices) (ha : request.address.IsRooted) :
    (site.respond request b).browser.HasOwnNotices := by
  rcases respond_becomes h hb ha with hsame | ⟨standing, _, hbecomes⟩
  · rwa [hsame]
  rcases hbecomes.here with hsame | hkept
  · rwa [hsame]
  -- At the host of the request a cookie keeps what the changes left; elsewhere all is as before.
  intro host
  by_cases hhost : host = request.address.cookieHost
  · rw [hhost, hkept]
    exact (hasOwnNotices_replyTo h request hn standing).kept
      (isKeyed_replyTo h request hb standing)
  · rw [hbecomes.elsewhere host hhost]
    exact hn host

/-- Requests alone let no notices wait but those of logouts. -/
theorem hasOwnNotices_browsers (h : site.settings.IsUsual) (sent : List Sending)
    (client : String) : ((site.browsers sent).getD client .new).HasOwnNotices :=
  browsers_induction_of_isOwn h (fun _ => Session.hasOwnNotices_of_none rfl)
    (fun ha ho hn => hasOwnNotices_of_respond h ho.usual hn ha) sent client

end Site

end Gatehouse
