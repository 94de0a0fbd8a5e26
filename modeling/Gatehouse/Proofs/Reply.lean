import Gatehouse.Site.Exchange

namespace Gatehouse

theorem map_eq_ok_iff {ε α β : Type} {x : Except ε α} {f : α → β} {b : β} :
    x.map f = .ok b ↔ ∃ a, x = .ok a ∧ f a = b := by
  cases x with
  | error e => simp [Except.map]
  | ok a => simp [Except.map]

theorem bind_eq_ok_iff {ε α β : Type} {x : Except ε α} {f : α → Except ε β} {b : β} :
    x >>= f = .ok b ↔ ∃ a, x = .ok a ∧ f a = .ok b := by
  cases x with
  | error e => simp [bind, Except.bind]
  | ok a => simp [bind, Except.bind]

theorem mapError_eq_ok {ε δ α : Type} {x : Except ε α} {f : ε → δ} {a : α}
    (h : x.mapError f = .ok a) : x = .ok a := by
  cases x with
  | error e => cases h
  | ok b => exact congrArg Except.ok (Except.ok.inj h)

theorem ok_of_toOption {ε α : Type} {x : Except ε α} {a : α} (h : x.toOption = some a) :
    x = .ok a := by
  cases x with
  | error e => simp [Except.toOption] at h
  | ok b => rw [Option.some.inj h]

theorem toOption_ok {ε α : Type} (a : α) : (Except.ok a : Except ε α).toOption = some a := rfl

namespace Reply

variable {α β : Type}

@[simp] theorem result_same (result : Except Fault α) (session : Session) :
    (same result session).result = result := rfl

@[simp] theorem session_same (result : Except Fault α) (session : Session) :
    (same result session).session = session := rfl

@[simp] theorem result_map (f : α → β) (r : Reply α) : (r.map f).result = r.result.map f := rfl

@[simp] theorem session_map (f : α → β) (r : Reply α) : (r.map f).session = r.session := rfl

variable {r : Reply α} {next : α → Session → Reply β}

theorem andThen_of_error {fault : Fault} (h : r.result = .error fault) :
    r.andThen next = ⟨.error fault, r.session, r.written, r.log⟩ := by
  simp only [andThen, h]

theorem andThen_of_ok {a : α} (h : r.result = .ok a) :
    r.andThen next =
      ⟨(next a r.session).result, (next a r.session).session,
        r.written || (next a r.session).written, r.log ++ (next a r.session).log⟩ := by
  simp only [andThen, h]

theorem result_andThen_eq_ok_iff {b : β} :
    (r.andThen next).result = .ok b ↔
      ∃ a, r.result = .ok a ∧ (next a r.session).result = .ok b := by
  cases h : r.result with
  | error fault => simp [andThen_of_error h]
  | ok a => simp [andThen_of_ok h]


end Reply

namespace Site

variable {site : Site} {request : Request} {browser : Browser}

theorem send_eq_ok {response sent : Response} {orders : List Cookie.Order} {log : List Event}
    (h : (send response orders browser log).result = .ok sent) :
    response.sealed = .ok sent ∧
      browser.receive orders = .ok (send response orders browser log).browser := by
  unfold send at h ⊢
  split
  next heq => simp [heq] at h
  next hok herr => simp [hok, herr] at h
  next hok hreceived =>
    simp only [hok, hreceived] at h ⊢
    exact ⟨by rw [Except.ok.inj h], trivial⟩

theorem afterFault_eq_ok {fault : Fault} {session : Session} {written : Bool} {log : List Event}
    {sent : Response}
    (h : (site.afterFault request browser fault session written log).result = .ok sent) :
    sent = .failed := by
  unfold afterFault at h
  split at h
  next => simp at h
  next =>
    split at h
    next => exact (Except.ok.inj (send_eq_ok h).1).symm
    next => exact (Except.ok.inj h).symm

/-- An answer that is no failure is the sealed response of a reply, whose session was settled. -/
theorem conclude_eq_ok {reply : Reply Response} {sent : Response}
    (h : (site.conclude request browser reply).result = .ok sent) (hne : sent ≠ .failed) :
    ∃ response orders, reply.result = .ok response ∧ response.sealed = .ok sent ∧
      site.settle request.address reply.session reply.written = .ok orders ∧
      browser.receive orders = .ok (site.conclude request browser reply).browser := by
  unfold conclude at h ⊢
  cases hr : reply.result with
  | error fault =>
    simp only [hr] at h
    exact absurd (afterFault_eq_ok h) hne
  | ok response =>
    simp only [hr] at h
    cases ho : site.settle request.address reply.session reply.written with
    | error fault =>
      simp only [ho] at h
      exact absurd (afterFault_eq_ok h) hne
    | ok orders =>
      simp only [ho] at h
      exact ⟨response, orders, rfl, (send_eq_ok h).1, rfl, (send_eq_ok h).2⟩

theorem respond_eq_ok {sent : Response} (h : (site.respond request browser).result = .ok sent)
    (hne : sent ≠ .failed) :
    ∃ standing session response,
      site.standing request.address = .ok standing ∧
      site.opened (browser.shownAt request.address) = .ok session ∧
      (site.answer standing ⟨request, browser.shownAt request.address⟩ session).result =
        .ok response ∧
      response.sealed = .ok sent := by
  unfold respond at h
  cases hs : site.standing request.address with
  | error fault => simp [hs] at h
  | ok standing =>
    cases ho : site.opened (browser.shownAt request.address) with
    | error fault =>
      simp only [hs, ho, unopened] at h
      split at h
      next => simp at h
      next => exact absurd (Except.ok.inj h).symm hne
    | ok session =>
      simp only [hs, ho] at h
      obtain ⟨response, _, hr, hsealed, _, _⟩ := conclude_eq_ok h hne
      exact ⟨standing, session, response, rfl, rfl, hr, hsealed⟩

end Site

end Gatehouse
