import Gatehouse.Proofs.Admission

namespace Gatehouse

open Relation (ReflTransGen)

namespace Session

/-- A record of the configured username, if there is a record. -/
def IsStandard (s : Session) (site : Site) : Prop :=
  ∀ v, s.get? recordKey = some v →
    ∃ u p, site.gate.configured = ⟨.text u, .text p⟩ ∧ v = loginRecord (.text u)

variable {site : Site} {request : Request} {s t : Session}

theorem IsStandard.stored (h : s.IsStandard site) {v : Value} (hv : s.get? recordKey = some v) :
    v.stored = .ok v := by
  obtain ⟨u, p, _, rfl⟩ := h v hv
  exact Value.stored_loginRecord u

theorem IsStandard.congr (h : s.IsStandard site) (hr : t.get? recordKey = s.get? recordKey) :
    t.IsStandard site := fun v hv => h v (hr ▸ hv)

theorem isStandard_of_changes (h : ReflTransGen (Change site request) s t)
    (hs : s.IsStandard site) : t.IsStandard site := by
  rcases record_of_changes h with hsame | ⟨u, p, _, hconf, hr⟩ | ⟨_, hr⟩
  · exact hs.congr hsame
  · intro v hv
    exact ⟨u, p, hconf, Option.some.inj (hv.symm.trans hr)⟩
  · intro v hv
    simp [hr] at hv

end Session

/-- A browser that has done nothing but send requests to the site. -/
structure Browser.IsOwn (b : Browser) (site : Site) : Prop where
  usual : b.IsUsual
  plain : ∀ host, (b.sessionAt host).IsPlain
  standard : ∀ host, (b.sessionAt host).IsStandard site

theorem Browser.isOwn_new (site : Site) : Browser.new.IsOwn site where
  usual := isUsual_new
  plain := fun _ => Session.isPlain_empty
  standard := fun _ _ hv => by simp [sessionAt_new] at hv

namespace Site

variable {site : Site} {request : Request} {b : Browser}

/-- An answer is sent if the order in its session can be carried out. -/
theorem respond_of_remember (h : site.settings.IsUsual) (hb : b.IsUsual)
    (ha : request.address.IsRooted) {standing : Except Denial String}
    (hs : site.standing request.address = .ok standing) {made sent : Response}
    (hmade : (site.replyTo request b standing).result = .ok made) (hsealed : made.sealed = .ok sent)
    (ho : ∀ order, (site.replyTo request b standing).session.get? Session.orderKey = some order →
      ∃ orders, site.remember request.address (site.replyTo request b standing).session order =
        .ok orders) :
    (site.respond request b).result = .ok sent ∧
      b.LeftWith request.address.cookieHost (site.replyTo request b standing).session
        (site.replyTo request b standing).written (site.respond request b).browser := by
  have hkeyed := isKeyed_replyTo h request hb standing
  obtain ⟨orders, horders⟩ := settle_ok_of_remember h request.address hkeyed ho
    (site.replyTo request b standing).written
  obtain ⟨after, hreceived, hleft⟩ := leftWith_of_settle h hkeyed horders hb
  rw [respond_eq_conclude h hb ha hs, conclude, hmade]
  simp only [horders, send, hsealed, hreceived, true_and]
  exact hleft

theorem respond_ok (h : site.settings.IsUsual) (hb : b.IsUsual) (ha : request.address.IsRooted)
    (hp : (b.sessionAt request.address.cookieHost).IsPlain) {standing : Except Denial String}
    (hs : site.standing request.address = .ok standing) {made sent : Response}
    (hmade : (site.replyTo request b standing).result = .ok made)
    (hsealed : made.sealed = .ok sent) : (site.respond request b).result = .ok sent := by
  have hplain := isPlain_replyTo h request hp standing
  exact (respond_of_remember h hb ha hs hmade hsealed fun order ho => by
    simp [hplain.unordered] at ho).1

/-- A plain session stands in the way of no answer. -/
theorem respond_eq_ok_iff (h : site.settings.IsUsual) (hb : b.IsUsual)
    (ha : request.address.IsRooted) (hp : (b.sessionAt request.address.cookieHost).IsPlain)
    {standing : Except Denial String} (hs : site.standing request.address = .ok standing)
    {sent : Response} (hne : sent ≠ .failed) :
    (site.respond request b).result = .ok sent ↔
      ∃ made, (site.replyTo request b standing).result = .ok made ∧ made.sealed = .ok sent := by
  constructor
  · intro hr
    obtain ⟨standing', made, hs', hmade, hsealed, _⟩ := respond_answered h hb ha hr hne
    obtain rfl := Except.ok.inj (hs.symm.trans hs')
    exact ⟨made, hmade, hsealed⟩
  · rintro ⟨made, hmade, hsealed⟩
    exact respond_ok h hb ha hp hs hmade hsealed

/-- What stands under a key after an answer, if a cookie keeps its value as it is. -/
theorem get?_of_answered (h : site.settings.IsUsual) (hb : b.IsUsual)
    {standing : Except Denial String} {after : Browser}
    (hleft : b.LeftWith request.address.cookieHost (site.replyTo request b standing).session
      (site.replyTo request b standing).written after) {name : String}
    (hne : name ≠ Session.orderKey)
    (hstored : ∀ v, (site.replyTo request b standing).session.get? name = some v →
      v.stored = .ok v) :
    (after.sessionAt request.address.cookieHost).get? name =
      (site.replyTo request b standing).session.get? name := by
  rcases hleft.here with ⟨hw, _, rfl⟩ | hkept
  · rw [(through_replyTo h request after standing).unwritten hw]
  · rw [hkept]
    exact Session.get?_kept_erase (isKeyed_replyTo h request hb standing) hne hstored

/-- After any exchange there stands what stood there before, or what the answer has put there. -/
theorem get?_of_respond (h : site.settings.IsUsual) (hb : b.IsUsual)
    (ha : request.address.IsRooted) {standing : Except Denial String}
    (hs : site.standing request.address = .ok standing) {name : String}
    (hne : name ≠ Session.orderKey)
    (hstored : ∀ v, (site.replyTo request b standing).session.get? name = some v →
      v.stored = .ok v) :
    ((site.respond request b).browser.sessionAt request.address.cookieHost).get? name =
        (b.sessionAt request.address.cookieHost).get? name ∨
      ((site.respond request b).browser.sessionAt request.address.cookieHost).get? name =
        (site.replyTo request b standing).session.get? name := by
  rcases respond_becomes h hb ha with hsame | ⟨standing', hs', hbecomes⟩
  · exact Or.inl (by rw [hsame])
  obtain rfl := Except.ok.inj (hs.symm.trans hs')
  rcases hbecomes.here with hsame | hkept
  · exact Or.inl (by rw [hsame])
  · refine Or.inr ?_
    rw [hkept]
    exact Session.get?_kept_erase (isKeyed_replyTo h request hb standing) hne hstored

theorem record_of_answered (h : site.settings.IsUsual) (ho : b.IsOwn site)
    {standing : Except Denial String} {after : Browser}
    (hleft : b.LeftWith request.address.cookieHost (site.replyTo request b standing).session
      (site.replyTo request b standing).written after) :
    (after.sessionAt request.address.cookieHost).get? recordKey =
      (site.replyTo request b standing).session.get? recordKey := by
  have hstandard := Session.isStandard_of_changes (through_replyTo h request b standing).changes
    (ho.standard _)
  exact get?_of_answered h ho.usual hleft (by decide) fun v hv => hstandard.stored hv

/-- Any request leaves the record as it was, or carries the configured pair and leaves its record,
or is a logout that sends the visitor on without a record. -/
theorem record_of_respond (h : site.settings.IsUsual) (hexit : site.gate.exit = .text "/login")
    (ho : b.IsOwn site) (ha : request.address.IsRooted) :
    ((site.respond request b).browser.sessionAt request.address.cookieHost).get? recordKey =
        (b.sessionAt request.address.cookieHost).get? recordKey ∨
      (∃ u p, site.Carries request u p ∧ site.gate.configured = ⟨.text u, .text p⟩ ∧
        ((site.respond request b).browser.sessionAt request.address.cookieHost).get? recordKey =
          some (loginRecord (.text u))) ∨
      ((∃ response, (site.respond request b).result = .ok response ∧
          site.Dismisses request response) ∧
        ((site.respond request b).browser.sessionAt request.address.cookieHost).get? recordKey =
          none) := by
  rcases respond_becomes h ho.usual ha with hsame | ⟨standing, hs, hbecomes⟩
  · exact Or.inl (by rw [hsame])
  have hthrough := through_replyTo h request b standing
  have hstandard := Session.isStandard_of_changes hthrough.changes (ho.standard _)
  rcases hbecomes.here with hsame | hkept
  · exact Or.inl (by rw [hsame])
  rw [hkept, Session.get?_kept_erase (isKeyed_replyTo h request ho.usual standing) (by decide)
    fun v hv => hstandard.stored hv]
  rcases Session.record_of_changes hthrough.changes with hr | ⟨u, p, hcarries, hconf, hr⟩ |
    ⟨hroute, hr⟩
  · exact Or.inl hr
  · exact Or.inr (Or.inl ⟨u, p, hcarries, hconf, hr⟩)
  · cases standing with
    | error denial => exact Or.inl rfl
    | ok name =>
      refine Or.inr (Or.inr ⟨⟨.redirect "/login", ?_, hroute, rfl⟩, hr⟩)
      have hlogout : (site.replyTo request b (.ok name)).result = .ok (.redirect "/login") := by
        simp only [replyTo, answer, answerAs, hroute]
        exact logout_ok h hexit (ho.plain _)
      exact respond_ok h ho.usual ha (ho.plain _) hs hlogout (ok_of_toOption (by decide +kernel))

theorem isOwn_of_respond (h : site.settings.IsUsual) (ho : b.IsOwn site)
    (ha : request.address.IsRooted) : (site.respond request b).browser.IsOwn site := by
  rcases respond_becomes h ho.usual ha with hsame | ⟨standing, hs, hbecomes⟩
  · rw [hsame]
    exact ho
  have hthrough := through_replyTo h request b standing
  have hstandard := Session.isStandard_of_changes hthrough.changes (ho.standard _)
  have hplain := isPlain_replyTo h request (ho.plain _) standing
  rcases hbecomes.here with hsame | hkept
  · rw [hsame]
    exact ho
  refine ⟨hbecomes.isUsual, fun host => ?_, fun host => ?_⟩
  · by_cases hhost : host = request.address.cookieHost
    · rw [hhost, hkept]
      exact (hplain.erase _).kept
    · rw [hbecomes.elsewhere host hhost]
      exact ho.plain host
  · by_cases hhost : host = request.address.cookieHost
    · rw [hhost, hkept]
      exact hstandard.congr (Session.get?_kept_erase hplain.keyed (by decide)
        fun v hv => hstandard.stored hv)
    · rw [hbecomes.elsewhere host hhost]
      exact ho.standard host

/-- Where a response has another status than those of a denial, the endpoint has answered. -/
theorem answered_by_endpoint {standing : Except Denial String} {made sent : Response}
    (hmade : (site.replyTo request b standing).result = .ok made) (hsealed : made.sealed = .ok sent)
    (hstatus : sent.status = 302 ∨ sent.status = 200) : ∃ name, standing = .ok name := by
  cases standing with
  | ok name => exact ⟨name, rfl⟩
  | error denial =>
    have hdenied := status_of_deny hmade
    rw [← Response.status_of_sealed hsealed] at hdenied
    rcases hstatus with hs | hs
    · exact absurd (hdenied.symm.trans hs) denial.status_ne.1
    · exact absurd (hdenied.symm.trans hs) denial.status_ne.2

theorem ne_failed_of_status {response : Response}
    (h : response.status = 302 ∨ response.status = 200) : response ≠ .failed := by
  rintro rfl
  simp [Response.status] at h

theorem record_of_dismisses (h : site.settings.IsUsual) (ho : b.IsOwn site)
    (ha : request.address.IsRooted) {response : Response}
    (hr : (site.respond request b).result = .ok response) (hd : site.Dismisses request response) :
    ((site.respond request b).browser.sessionAt request.address.cookieHost).get? recordKey =
      none := by
  obtain ⟨hroute, hstatus⟩ := hd
  obtain ⟨standing, made, hs, hmade, hsealed, hleft⟩ :=
    respond_answered h ho.usual ha hr (ne_failed_of_status (Or.inl hstatus))
  obtain ⟨name, rfl⟩ := answered_by_endpoint hmade hsealed (Or.inl hstatus)
  rw [record_of_answered h ho hleft]
  simp only [replyTo, answer, answerAs, hroute]
  exact (record_of_logout h).1

theorem record_of_admits (h : site.settings.IsUsual) (ho : b.IsOwn site)
    (ha : request.address.IsRooted) {response : Response}
    (hr : (site.respond request b).result = .ok response) (hadmits : site.Admits request response) :
    ∃ u p, site.gate.configured = ⟨.text u, .text p⟩ ∧
      ((site.respond request b).browser.sessionAt request.address.cookieHost).get? recordKey =
        some (loginRecord (.text u)) := by
  have hstatus : response.status = 302 ∨ response.status = 200 := by
    rcases hadmits with ⟨_, hstatus⟩ | ⟨_, hstatus⟩
    · exact Or.inl hstatus
    · exact Or.inr hstatus
  obtain ⟨standing, made, hs, hmade, hsealed, hleft⟩ :=
    respond_answered h ho.usual ha hr (ne_failed_of_status hstatus)
  obtain ⟨name, rfl⟩ := answered_by_endpoint hmade hsealed hstatus
  rw [record_of_answered h ho hleft]
  have hmadestatus := Response.status_of_sealed hsealed
  rcases hadmits with ⟨hroute, hstatus⟩ | ⟨hroute, hstatus⟩
  · simp only [replyTo, answer, answerAs, hroute] at hmade ⊢
    exact record_of_submitLogin h hmade (hmadestatus.symm.trans hstatus)
  · have hthrough := through_replyTo h request b (.ok name)
    have hstandard := Session.isStandard_of_changes hthrough.changes (ho.standard _)
    have huser : (site.replyTo request b (.ok name)).session.username? ≠ none := by
      simp only [replyTo, answer, answerAs, hroute] at hmade ⊢
      exact username_of_dashboard h hmade (hmadestatus.symm.trans hstatus)
    cases hrecord : (site.replyTo request b (.ok name)).session.get? recordKey with
    | none => exact absurd (by simp [Session.username?, Session.record?, hrecord]) huser
    | some v =>
      obtain ⟨u, p, hconf, rfl⟩ := hstandard v hrecord
      exact ⟨u, p, hconf, rfl⟩

end Site

end Gatehouse
