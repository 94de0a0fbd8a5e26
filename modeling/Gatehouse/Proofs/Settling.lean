import Gatehouse.Proofs.Browser

namespace Gatehouse

namespace Site

variable {site : Site}

theorem sessionCookie_isForRoot (h : site.settings.IsUsual) :
    site.sessionCookie.IsForRoot "session" := by
  have hrule : site.sessionCookie =
      { Settings.initial.sessionCookie with path := .text "/", sameSite := .text "Lax" } :=
    h.same (fun s => Site.sessionCookie ⟨site.gate, s⟩) fun _ _ _ _ _ => rfl
  rw [hrule]
  decide +kernel

theorem tokenCookie_of_isUsual (h : site.settings.IsUsual) :
    site.settings.tokenCookie = Settings.initial.tokenCookie :=
  h.same Settings.tokenCookie fun _ _ _ _ _ => rfl

theorem tokenCookie_isForRoot (h : site.settings.IsUsual) :
    site.settings.tokenCookie.IsForRoot "remember_token" := by
  rw [tokenCookie_of_isUsual h]
  decide +kernel

/-- The rule by which a token is dropped. -/
theorem oldCookie_isForRoot (h : site.settings.IsUsual) :
    { site.settings.tokenCookie with sameSite := .null, httpOnly := .null, secure := .null
      : CookieRule }.IsForRoot "remember_token" := by
  rw [tokenCookie_of_isUsual h]
  decide +kernel

theorem checkLimit_of_isUsual (h : site.settings.IsUsual) :
    CookieRule.checkLimit site.settings.cookieLimit = .ok () := by
  have hlimit : site.settings.cookieLimit = .int 4093 :=
    h.same Settings.cookieLimit fun _ _ _ _ _ => rfl
  rw [hlimit]
  exact ok_of_toOption (by decide +kernel)

theorem save_of_isUsual (h : site.settings.IsUsual) (address : Address) {session : Session}
    (hk : session.IsKeyed) (written : Bool) :
    site.save address session written =
      .ok (if written || session.isPermanent then [.leave address.cookieHost session] else []) := by
  have hrefresh : site.settings.sessionRefresh.truthy = true :=
    h.same (fun s => s.sessionRefresh.truthy) fun _ _ _ _ _ => rfl
  rw [save, hrefresh, signed_of_isUsual h, Bool.and_true, Bool.and_true]
  cases hd : written || session.isPermanent with
  | false => rfl
  | true =>
    have hissue := (sessionCookie_isForRoot h).issue (checkLimit_of_isUsual h) address
    cases he : session.isEmpty with
    | true =>
      rw [hissue none]
      simp [Cookie.Order.leave, he, Except.map, Cookie.sessionKey]
    | false =>
      rw [store, checkEnd_of_isUsual h, hk.stored, checkSecret_of_isUsual h]
      simp only [bind, Except.bind, hissue]
      simp [Cookie.Order.leave, he, Except.map, Cookie.sessionKey, Session.ofValue, Session.toValue]

theorem remember_cases (h : site.settings.IsUsual) (address : Address) (session : Session)
    (order : Value) :
    (∃ fault, site.remember address session order = .error fault) ∨
      site.remember address session order = .ok [] ∨
      ∃ visitor, site.remember address session order =
        .ok [.entrust address.cookieHost visitor] := by
  unfold remember
  split
  next order =>
    split
    next =>
      refine Or.inr (Or.inr ⟨none, ?_⟩)
      rw [oldToken, (oldCookie_isForRoot h).issue (checkLimit_of_isUsual h)]
      rfl
    next =>
      split
      next =>
        split
        next visitor _ =>
          cases hn : site.newToken address session visitor with
          | error fault => exact Or.inl ⟨fault, rfl⟩
          | ok made =>
            refine Or.inr (Or.inr ⟨some visitor.toText, ?_⟩)
            obtain ⟨_, _, hn⟩ := bind_eq_ok_iff.mp hn
            obtain ⟨_, _, hn⟩ := bind_eq_ok_iff.mp hn
            obtain ⟨_, _, hn⟩ := bind_eq_ok_iff.mp hn
            rw [(tokenCookie_isForRoot h).issue (checkLimit_of_isUsual h)] at hn
            rw [← Except.ok.inj hn]
            rfl
        next => exact Or.inr (Or.inl rfl)
      next => exact Or.inr (Or.inl rfl)
  next => exact Or.inr (Or.inl rfl)

/-- A session can be settled if an order in it can be carried out. -/
theorem settle_ok_of_remember (h : site.settings.IsUsual) (address : Address) {session : Session}
    (hk : session.IsKeyed)
    (ho : ∀ order, session.get? Session.orderKey = some order →
      ∃ orders, site.remember address session order = .ok orders) (written : Bool) :
    ∃ orders, site.settle address session written = .ok orders := by
  rw [settle, order?_of_isUsual h]
  cases hg : session.get? Session.orderKey with
  | none =>
    dsimp only
    rw [save_of_isUsual h address hk]
    exact ⟨_, rfl⟩
  | some order =>
    obtain ⟨first, hfirst⟩ := ho order hg
    simp only [signed_of_isUsual h, if_true]
    rw [hfirst, save_of_isUsual h address (hk.erase _)]
    exact ⟨_, rfl⟩

end Site

/-- What a browser is left with: at the host a session as a cookie keeps it, or nothing new if that
session was not written to. -/
structure Browser.LeftWith (before : Browser) (host : String) (session : Session) (written : Bool)
    (after : Browser) : Prop where
  isUsual : after.IsUsual
  elsewhere : ∀ other ≠ host, after.sessionAt other = before.sessionAt other
  here : written = false ∧ session.get? Session.orderKey = none ∧ after = before ∨
    after.sessionAt host = (session.erase Session.orderKey).kept

/-- A browser is as it was, or has at the host a session as a cookie keeps it. -/
structure Browser.Becomes (before : Browser) (host : String) (session : Session)
    (after : Browser) : Prop where
  isUsual : after.IsUsual
  elsewhere : ∀ other ≠ host, after.sessionAt other = before.sessionAt other
  here : after = before ∨ after.sessionAt host = (session.erase Session.orderKey).kept

theorem Browser.LeftWith.becomes {before after : Browser} {host : String} {session : Session}
    {written : Bool} (h : before.LeftWith host session written after) :
    before.Becomes host session after where
  isUsual := h.isUsual
  elsewhere := h.elsewhere
  here := h.here.imp (fun hsame => hsame.2.2) id

theorem Browser.Becomes.of_erase {before after : Browser} {host : String} {session : Session}
    (h : before.Becomes host (session.erase Session.orderKey) after) :
    before.Becomes host session after where
  isUsual := h.isUsual
  elsewhere := h.elsewhere
  here := by
    have herase := Session.erase_of_get?_eq_none (session.get?_erase_self Session.orderKey)
    rw [← herase]
    exact h.here

namespace Site

variable {site : Site}

theorem leftWith_of_settle (h : site.settings.IsUsual) {address : Address} {session : Session}
    (hk : session.IsKeyed) {written : Bool} {orders : List Cookie.Order}
    (hs : site.settle address session written = .ok orders) {b : Browser} (hb : b.IsUsual) :
    ∃ after, b.receive orders = .ok after ∧
      b.LeftWith address.cookieHost session written after := by
  have hleave : ∀ {c : Browser}, c.IsUsual →
      (∀ other, c.sessionAt other = b.sessionAt other) → ∃ after,
        c.receive [.leave address.cookieHost (session.erase Session.orderKey)] = .ok after ∧
          b.LeftWith address.cookieHost session written after := by
    intro c hc hsame
    refine ⟨c.after (.leave address.cookieHost (session.erase Session.orderKey)), ?_,
      hc.after_leave _ (hk.erase _), fun other hne => ?_,
      Or.inr (Browser.sessionAt_after_leave _ _)⟩
    · rw [Browser.receive_cons (by rw [Browser.key_leave]; simp [Cookie.sessionKey])]
      rfl
    · rw [Browser.sessionAt_after_leave_of_ne hne, hsame]
  unfold settle at hs
  rw [order?_of_isUsual h] at hs
  cases ho : session.get? Session.orderKey with
  | none =>
    simp only [ho] at hs
    rw [save_of_isUsual h address hk] at hs
    have herase := Session.erase_of_get?_eq_none ho
    split at hs
    next =>
      obtain rfl := Except.ok.inj hs
      rw [← herase]
      exact herase.symm ▸ hleave hb fun _ => rfl
    next hd =>
      obtain rfl := Except.ok.inj hs
      simp only [Bool.or_eq_true, not_or, Bool.not_eq_true] at hd
      exact ⟨b, rfl, hb, fun _ _ => rfl, Or.inl ⟨hd.1, ho, rfl⟩⟩
  | some order =>
    simp only [ho, signed_of_isUsual h, if_true] at hs
    obtain ⟨first, hf, hs⟩ := bind_eq_ok_iff.mp hs
    obtain ⟨rest, hr, hs⟩ := bind_eq_ok_iff.mp hs
    obtain rfl := Except.ok.inj hs
    rw [save_of_isUsual h address (hk.erase _), Bool.true_or, if_pos rfl] at hr
    obtain rfl := Except.ok.inj hr
    rcases remember_cases h address session order with ⟨fault, he⟩ | he | ⟨visitor, he⟩
    · simp [he] at hf
    · obtain rfl := Except.ok.inj (he.symm.trans hf)
      exact hleave hb fun _ => rfl
    · obtain rfl := Except.ok.inj (he.symm.trans hf)
      rw [List.singleton_append,
        Browser.receive_cons (by rw [Browser.key_entrust]; simp [Cookie.tokenKey])]
      exact hleave (hb.after_entrust _ _) fun _ => Browser.sessionAt_after_entrust _ _ _

end Site

end Gatehouse
