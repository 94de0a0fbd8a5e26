import Gatehouse.Proofs.Admission

namespace Gatehouse

/-- What takes notices out looks at nothing else in a session. -/
theorem Session.takeNotices_congr {s t : Session} (h : t.get? noticesKey = s.get? noticesKey) :
    t.takeNotices.result = s.takeNotices.result := by
  unfold takeNotices
  rw [h]
  split
  next => rfl
  next => rfl

namespace Site

variable {site : Site} {request : Request} {visit : Visit} {session : Session} {status : Nat}
  {page : Page} {sent : Bool}

/-- The name by which the dashboard calls a visitor: the one in the record of the session, or where
there is none, the one in the header if its pair is the configured one. -/
def Names (site : Site) (request : Request) (session : Session) (name : String) : Prop :=
  session.username? = some name ∨
    session.username? = none ∧ ∃ password, request.basicPair? = .ok (some (name, password)) ∧
      site.gate.configured = ⟨.text name, .text password⟩

/-- A target that is not empty. -/
def given? (target : Option String) : Option String := target.filter (· ≠ "")

/-- Which page answers a request with which status. The login page shows the target as it came with
the request, unless the submission was none, and the name that was filled in, if it was wrong. -/
inductive Shows (site : Site) (request : Request) (session : Session) : Nat → Content → Prop
  | asked (route : Route.of (site.asked request) request.path = .endpoint .loginForm) :
    Shows site request session 200 (.login none (given? request.queryTarget?) "")
  | malformed {payload : Datum} {flaw : Flaw}
    (route : Route.of (site.asked request) request.path = .endpoint .submitLogin)
    (read : request.payload = .ok payload)
    (flawed : Submission.ofPayload payload (Value.ofText? request.target?) = .error flaw) :
    Shows site request session 400 (.login (some "Invalid login payload") none "")
  | rejected {payload : Datum} {username password : String}
    (route : Route.of (site.asked request) request.path = .endpoint .submitLogin)
    (read : request.payload = .ok payload)
    (submitted : Submission.ofPayload payload (Value.ofText? request.target?) =
      .ok ⟨.text username, .text password, Value.ofText? request.target?⟩) :
    Shows site request session 401
      (.login (some "Invalid credentials") (given? request.target?) username)
  | dashboard {name : String}
    (route : Route.of (site.asked request) request.path = .endpoint .dashboard)
    (named : site.Names request session name) :
    Shows site request session 200 (.dashboard name)

/-- A page as it answers a request: what it shows, under which path it stands, the notices that waited
in the session, and whether more than its head is sent. -/
structure Serves (site : Site) (request : Request) (session : Session) (status : Nat) (page : Page)
    (sent : Bool) : Prop where
  shows : site.Shows request session status page.content
  root : page.root = request.address.root
  notices : session.takeNotices.result = .ok page.notices
  sent : sent = !request.wantsHead

theorem shownText_ofText? (target : Option String) :
    shownText (Value.ofText? target) = given? target := by
  cases target with
  | none => rfl
  | some text =>
    by_cases h : text = ""
    · subst h
      rfl
    · simp [shownText, Value.ofText?, Value.truthy, Value.toText, given?, Option.filter, h]

/-- Asking who the visitor is leaves the notices where they are. -/
theorem notices_of_visitor (h : site.settings.IsUsual) (visit : Visit) (session : Session) :
    (site.visitor visit session).session.get? Session.noticesKey =
      session.get? Session.noticesKey := by
  rcases visitor_cases h visit session with ⟨_, hv, _⟩ | ⟨token, hv⟩ | ⟨u, p, _, _, _, hv⟩
  · rw [hv]
    rfl
  · rw [hv]
    dsimp only
    rw [Session.withToken, Session.get?_insert_of_ne (by decide),
      Session.get?_insert_of_ne (by decide)]
  · rw [hv]
    exact Session.get?_insert_of_ne (by decide) _ _

theorem names_of_visitor (h : site.settings.IsUsual) {name : String}
    (hr : (site.visitor visit session).result = .ok (some name)) :
    site.Names visit.request session name := by
  rcases visitor_cases h visit session with ⟨result, hv, hname⟩ | ⟨token, hv⟩ |
    ⟨u, p, hnone, hpair, hconf, hv⟩
  · rw [hv] at hr
    exact Or.inl (hname name hr)
  · simp [hv] at hr
  · rw [hv] at hr
    obtain rfl := Option.some.inj (Except.ok.inj hr)
    exact Or.inr ⟨hnone, p, hpair, hconf⟩

/-- A page that is shown once the site knows who the visitor is. -/
theorem serves_of_showPage (h : site.settings.IsUsual) {shown : Nat} {content : Content}
    (hr : (showPage visit.request (site.visitor visit session).session shown content).result =
      .ok (.page status page sent))
    (hshows : site.Shows visit.request session shown content) :
    site.Serves visit.request session status page sent := by
  obtain ⟨notices, hnotices, hpage⟩ := map_eq_ok_iff.mp hr
  obtain ⟨rfl, rfl, rfl⟩ := Response.page.inj hpage
  rw [Session.takeNotices_congr (notices_of_visitor h visit session)] at hnotices
  exact ⟨hshows, rfl, hnotices, rfl⟩

theorem serves_of_showLoginPage (h : site.settings.IsUsual) {shown : Nat} {view : FormView}
    (hr : (site.showLoginPage visit session shown view).result = .ok (.page status page sent))
    (hshows : site.Shows visit.request session shown (loginContent view)) :
    site.Serves visit.request session status page sent := by
  obtain ⟨_, _, hpage⟩ := Reply.result_andThen_eq_ok_iff.mp hr
  exact serves_of_showPage h hpage hshows

theorem redirectTo_ne_page (location : Value) :
    redirectTo location ≠ .ok (.page status page sent) := by
  intro h
  exact absurd (checked_eq_ok h) (by simp)

theorem loginDetour_ne_page (request : Request) :
    loginDetour request ≠ .ok (.page status page sent) := by
  unfold loginDetour
  exact redirectTo_ne_page _

theorem deny_ne_page (request : Request) (denial : Denial) :
    site.deny request denial ≠ .ok (.page status page sent) := by
  intro h
  unfold deny at h
  split at h
  next => simp at h
  next => exact absurd (checked_eq_ok h) (by simp)

theorem logout_ne_page : (site.logout request session).result ≠ .ok (.page status page sent) := by
  intro h
  obtain ⟨outcome, _, hleft⟩ := Reply.result_andThen_eq_ok_iff.mp h
  split at hleft
  next => simp at hleft
  next => exact absurd hleft (redirectTo_ne_page _)

theorem serves_of_dashboard (h : site.settings.IsUsual)
    (hroute : Route.of (site.asked visit.request) visit.request.path = .endpoint .dashboard)
    (hr : (site.dashboard visit session).result = .ok (.page status page sent)) :
    site.Serves visit.request session status page sent := by
  obtain ⟨who, hv, hpage⟩ := Reply.result_andThen_eq_ok_iff.mp hr
  cases who with
  | some name => exact serves_of_showPage h hpage (.dashboard hroute (names_of_visitor h hv))
  | none =>
    dsimp only at hpage
    split at hpage
    next => simp at hpage
    next =>
      rw [Reply.result_same] at hpage
      exact absurd hpage (loginDetour_ne_page _)

theorem serves_of_loginForm (h : site.settings.IsUsual)
    (hroute : Route.of (site.asked visit.request) visit.request.path = .endpoint .loginForm)
    (hr : (site.loginForm visit session).result = .ok (.page status page sent)) :
    site.Serves visit.request session status page sent := by
  refine serves_of_showLoginPage h hr ?_
  have hcontent : loginContent (.fresh (Value.ofText? visit.request.queryTarget?)) =
      .login none (given? visit.request.queryTarget?) "" := by
    rw [← shownText_ofText?]
    rfl
  rw [hcontent]
  exact .asked hroute

theorem serves_of_submitLogin (h : site.settings.IsUsual)
    (hroute : Route.of (site.asked visit.request) visit.request.path = .endpoint .submitLogin)
    (hr : (site.submitLogin visit session).result = .ok (.page status page sent)) :
    site.Serves visit.request session status page sent := by
  unfold submitLogin at hr
  dsimp only at hr
  split at hr
  next => simp at hr
  next => exact absurd hr (deny_ne_page _ _)
  next => simp at hr
  next payload _ hpayload =>
    rw [permit_of_isUsual h] at hr
    obtain ⟨outcome, ho, hafter⟩ := Reply.result_andThen_eq_ok_iff.mp hr
    -- A flaw and a wrong pair bring the form back; a right pair leads on and shows no page.
    rcases site.gate.login_cases session payload (Value.ofText? visit.request.target?)
      visit.request.origin with ⟨flaw, hflaw, hl⟩ | ⟨_, hl⟩ | ⟨u, p, hsub, hl⟩ | ⟨u, p, _, _, hl⟩
    · rw [hl] at ho hafter
      obtain rfl := Except.ok.inj ho
      exact serves_of_showLoginPage h hafter (.malformed hroute hpayload hflaw)
    · simp [hl] at ho
    · rw [hl] at ho hafter
      obtain rfl := Except.ok.inj ho
      have hcontent : loginContent (.returned u p (Value.ofText? visit.request.target?)
          Refusal.wrongCredentials.notice) =
          .login (some "Invalid credentials") (given? visit.request.target?) u := by
        rw [← shownText_ofText?]
        rfl
      refine serves_of_showLoginPage h hafter ?_
      rw [hcontent]
      exact .rejected hroute hpayload hsub
    · rw [hl] at ho hafter
      obtain rfl := Except.ok.inj ho
      unfold afterLogin at hafter
      split at hafter
      next => simp at hafter
      next hview => simp [Outcome.view?] at hview
      next =>
        rw [Reply.result_same] at hafter
        exact absurd hafter (redirectTo_ne_page _)

theorem serves_of_answer (h : site.settings.IsUsual) {standing : Except Denial String}
    (hr : (site.answer standing visit session).result = .ok (.page status page sent)) :
    site.Serves visit.request session status page sent := by
  cases standing with
  | error denial => exact absurd hr (deny_ne_page _ _)
  | ok name =>
    unfold answer answerAs at hr
    dsimp only at hr
    split at hr
    next => exact absurd hr (deny_ne_page _ _)
    next => exact absurd hr (deny_ne_page _ _)
    next => exact absurd hr (deny_ne_page _ _)
    next => exact absurd hr (deny_ne_page _ _)
    next => simp at hr
    next hroute => exact serves_of_dashboard h hroute hr
    next hroute => exact serves_of_loginForm h hroute hr
    next hroute => exact serves_of_submitLogin h hroute hr
    next => exact absurd hr logout_ne_page

end Site

end Gatehouse
