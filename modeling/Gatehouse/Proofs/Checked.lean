import Gatehouse.Proofs.Turn

namespace Gatehouse

namespace Reply

variable {α β : Type} {r : Reply α} {next : α → Session → Reply β}

theorem log_andThen_of_nil (hr : r.log = []) (hnext : ∀ a s, (next a s).log = []) :
    (r.andThen next).log = [] := by
  cases h : r.result with
  | error fault => rw [andThen_of_error h, hr]
  | ok a => rw [andThen_of_ok h, hr, hnext, List.append_nil]

/-- What the second operation leaves alone is as the first one left it. -/
theorem get?_andThen {name : String} (hnext : ∀ a s, (next a s).session.get? name = s.get? name) :
    (r.andThen next).session.get? name = r.session.get? name := by
  cases h : r.result with
  | error fault => rw [andThen_of_error h]
  | ok a => rw [andThen_of_ok h, hnext]

end Reply

namespace Submission

/-- The pair of a submission, if its texts are whole; only then it is compared with another. -/
def pair? (s : Submission) : Option (String × String) :=
  match s.username, s.password with
  | .text u, .text p => some (u, p)
  | _, _ => none

theorem pair?_eq_some_iff {s : Submission} {u p : String} :
    s.pair? = some (u, p) ↔ s.username = .text u ∧ s.password = .text p := by
  unfold pair?
  split
  next hu hp => simp [hu, hp]
  next hnot =>
    simp only [reduceCtorEq, false_iff]
    rintro ⟨hu, hp⟩
    exact hnot u p hu hp

theorem fault?_of_pair?_eq_none {s : Submission} (h : s.pair? = none) :
    ∃ fault, s.credential.fault? = some fault := by
  cases hf : s.credential.fault? with
  | some fault => exact ⟨fault, rfl⟩
  | none =>
    obtain ⟨u, p, hpair⟩ := Credential.texts_of_fault?_eq_none hf
    obtain ⟨hu, hp⟩ := Credential.mk.inj hpair
    rw [pair?_eq_some_iff.mpr ⟨hu, hp⟩] at h
    cases h

end Submission

namespace Site

section Pairs

variable (site : Site) (request : Request)

/-- The endpoint that a request gets to; none where the site turns it away. -/
def endpoint? : Option Endpoint :=
  match site.standing request.address, Route.of (site.asked request) request.path with
  | .ok (.ok _), .endpoint endpoint => some endpoint
  | _, _ => none

/-- The payload of a login, if it is taken and can be read. -/
def taken? : Option Datum :=
  match site.endpoint? request, site.tooLong request, request.payload with
  | some .submitLogin, .ok false, .ok payload => some payload
  | _, _, _ => none

def formPair? : Option (String × String) :=
  (site.taken? request).bind fun payload =>
    (Submission.ofPayload payload .null).toOption.bind Submission.pair?

/-- Whether a login is answered with the form: where its payload holds no pair, or another one. -/
def comesBack (pair : String × String) : Bool :=
  match site.taken? request with
  | none => false
  | some payload =>
    match Submission.ofPayload payload .null with
    | .error _ => true
    | .ok s => s.pair?.any (· ≠ pair)

/-- Whether the answer depends on who the visitor is. A login with the right pair shows no page, and
one with a pair that cannot be compared shows none either. -/
def asksVisitor (pair : String × String) : Bool :=
  match site.endpoint? request with
  | some .dashboard => true
  | some .loginForm => true
  | some .submitLogin => site.comesBack request pair
  | _ => false

/-- The pair in the header of a visitor who has no record, where that is looked for. -/
def vouchedPair? (visit : Visit) (session : Session) : Option (String × String) :=
  match visit.request.mark, site.token? visit.cookies session, session.username?,
    visit.request.basicPair? with
  | .ok _, .ok none, none, .ok pair => pair
  | _, _, _, _ => none

/-- The pair in the header, if it is checked. -/
def headerPair? (visit : Visit) (session : Session) (pair : String × String) :
    Option (String × String) :=
  if site.asksVisitor visit.request pair then site.vouchedPair? visit session else none

/-- What is logged of a login, by what its payload holds. -/
def judged (origin : Value) (pair : String × String) : Except Flaw Submission → List Event
  | .error flaw => [.malformed origin flaw]
  | .ok s =>
    match s.pair? with
    | none => []
    | some other => if other = pair then [.login origin] else [.rejected origin]

def loginLog (pair : String × String) : List Event :=
  match site.taken? request with
  | some payload => judged request.origin pair (Submission.ofPayload payload .null)
  | none => []

/-- What is logged of a logout. -/
def logoutLog (session : Session) : List Event :=
  if site.endpoint? request = some .logout then
    match session.get? recordKey with
    | none | some .null => []
    | some _ => [.logout request.origin]
  else []

end Pairs

variable {site : Site} {visit : Visit} {session : Session} {pair : String × String}

section Visitor

variable (h : site.settings.IsUsual)
include h

theorem log_visitor : (site.visitor visit session).log = [] := by
  rcases visitor_cases h visit session with ⟨_, hv, _⟩ | ⟨_, hv⟩ | ⟨_, _, _, _, _, hv⟩
  · rw [hv]
    rfl
  · rw [hv]
  · rw [hv]

theorem asked_of_visitor {name : String}
    (hr : (site.visitor visit session).result = .ok (some name)) :
    (∃ mark, visit.request.mark = .ok mark) ∧ site.token? visit.cookies session = .ok none := by
  cases hm : visit.request.mark with
  | error fault => simp [visitor, hm] at hr
  | ok mark =>
    refine ⟨⟨mark, rfl⟩, ?_⟩
    rw [visitor_of_isUsual h hm, trustedVisitor] at hr
    split at hr
    next => simp at hr
    next htoken => exact htoken
    next =>
      split at hr
      next => simp at hr
      next => simp at hr
      next => simp at hr

theorem visitor_eq_identify (hv : site.vouchedPair? visit session = some pair) :
    site.visitor visit session = site.identify visit.request session ∧
      session.username? = none ∧ visit.request.basicPair? = .ok (some pair) := by
  unfold vouchedPair? at hv
  split at hv
  next _ _ hm htoken hnone hpair =>
    refine ⟨?_, hnone, by rw [hpair, hv]⟩
    rw [visitor_of_isUsual h hm, trustedVisitor, htoken]
  next => simp at hv

variable (hconf : site.gate.configured = ⟨.text pair.1, .text pair.2⟩)
include hconf

theorem visitor_of_vouchedPair (hv : site.vouchedPair? visit session = some pair) :
    site.visitor visit session =
      ⟨.ok (some pair.1), session.withRecord (.text pair.1), true, []⟩ := by
  obtain ⟨hvisitor, hnone, hpair⟩ := visitor_eq_identify h hv
  rw [hvisitor, identify, hnone, hpair]
  simp only [permit_of_isUsual h, Gate.vouch_of_configured hconf]
  rfl

theorem record_of_visitor (hv : site.vouchedPair? visit session ≠ some pair) :
    (site.visitor visit session).session.get? recordKey = session.get? recordKey := by
  rcases visitor_cases h visit session with ⟨_, hcase, _⟩ | ⟨token, hcase⟩ |
    ⟨u, p, hnone, hpair, hcarried, hcase⟩
  · rw [hcase]
    rfl
  · rw [hcase]
    exact Session.get?_withToken session token
  · have hknown : (site.visitor visit session).result = .ok (some u) := by rw [hcase]
    obtain ⟨⟨mark, hm⟩, htoken⟩ := asked_of_visitor h hknown
    obtain ⟨hu, hp⟩ := Credential.mk.inj (hcarried.symm.trans hconf)
    refine absurd ?_ hv
    simp only [vouchedPair?, hm, htoken, hnone, hpair, Datum.text.inj hu, Datum.text.inj hp]

theorem get?_visitor : (site.visitor visit session).session.get? recordKey =
    if site.vouchedPair? visit session = some pair then some (loginRecord (.text pair.1))
    else session.get? recordKey := by
  split
  next hv =>
    rw [visitor_of_vouchedPair h hconf hv]
    exact Session.get?_withRecord session _
  next hv => exact record_of_visitor h hconf hv

end Visitor

section Pages

theorem log_showPage (request : Request) (status : Nat) (content : Content) :
    (showPage request session status content).log = [] := by
  change session.takeNotices.log = []
  unfold Session.takeNotices
  split
  next => rfl
  next => rfl

theorem result_showPage (hp : session.IsPlain) (request : Request) (status : Nat)
    (content : Content) : ∃ page sent, (showPage request session status content).result =
      .ok (.page status page sent) := by
  obtain ⟨notices, hnotices⟩ := hp.takeNotices_ok
  have hresult : (showPage request session status content).result =
      session.takeNotices.result.map fun notices =>
        .page status ⟨request.address.root, notices, content⟩ !request.wantsHead := rfl
  rw [hresult, hnotices]
  exact ⟨_, _, rfl⟩

theorem get?_showLoginPage (status : Nat) (view : FormView) :
    (site.showLoginPage visit session status view).session.get? recordKey =
      (site.visitor visit session).session.get? recordKey :=
  Reply.get?_andThen fun _ _ => get?_showPage _ _ (by decide)

theorem get?_dashboard : (site.dashboard visit session).session.get? recordKey =
    (site.visitor visit session).session.get? recordKey := by
  refine Reply.get?_andThen fun who s => ?_
  split
  next => exact get?_showPage _ _ (by decide)
  next =>
    split
    next => rfl
    next => rfl

theorem session_afterLogin_admitted (location : Value) :
    (site.afterLogin visit (.admitted location) session).session = session := by
  cases location <;> rfl

theorem log_afterLogin_admitted (location : Value) :
    (site.afterLogin visit (.admitted location) session).log = [] := by
  cases location <;> rfl

variable (h : site.settings.IsUsual)
include h

theorem log_showLoginPage (status : Nat) (view : FormView) :
    (site.showLoginPage visit session status view).log = [] :=
  Reply.log_andThen_of_nil (log_visitor h) fun _ _ => log_showPage _ _ _

theorem log_dashboard : (site.dashboard visit session).log = [] := by
  refine Reply.log_andThen_of_nil (log_visitor h) fun who s => ?_
  split
  next => exact log_showPage _ _ _
  next =>
    split
    next => rfl
    next => rfl

end Pages

section Logins

variable (h : site.settings.IsUsual)

theorem endpoint?_eq_some {request : Request} {standing : Except Denial String}
    (hs : site.standing request.address = .ok standing) {endpoint : Endpoint}
    (he : site.endpoint? request = some endpoint) :
    (∃ name, standing = .ok name) ∧
      Route.of (site.asked request) request.path = .endpoint endpoint := by
  unfold endpoint? at he
  rw [hs] at he
  split at he
  next name found hname hroute =>
    obtain rfl := Option.some.inj he
    exact ⟨⟨name, Except.ok.inj hname⟩, hroute⟩
  next => simp at he

theorem taken?_eq_none {request : Request} (he : site.endpoint? request ≠ some .submitLogin) :
    site.taken? request = none := by
  unfold taken?
  split
  next hsubmit _ _ => exact absurd hsubmit he
  next => rfl

/-- A login that is not taken is denied, or fails, and does nothing else. -/
theorem submitLogin_of_not_taken (he : site.endpoint? visit.request = some .submitLogin)
    (hn : site.taken? visit.request = none) :
    ∃ result, site.submitLogin visit session = .same result session := by
  unfold submitLogin
  dsimp only
  split
  next => exact ⟨_, rfl⟩
  next => exact ⟨_, rfl⟩
  next => exact ⟨_, rfl⟩
  next payload htaken hpayload => simp [taken?, he, htaken, hpayload] at hn

include h in
theorem submitLogin_of_taken {payload : Datum} (ht : site.taken? visit.request = some payload)
    (session : Session) :
    site.submitLogin visit session =
      (site.gate.login session payload (Value.ofText? visit.request.target?)
        visit.request.origin).andThen fun outcome session => site.afterLogin visit outcome session := by
  unfold taken? at ht
  split at ht
  next htaken hpayload =>
    obtain rfl := Option.some.inj ht
    simp only [submitLogin, htaken, hpayload, permit_of_isUsual h]
  next => simp at ht

/-- What becomes of a login, by what its payload holds. -/
theorem login_judged (hconf : site.gate.configured = ⟨.text pair.1, .text pair.2⟩)
    (payload : Datum) (session : Session) (target origin : Value) :
    let read := Submission.ofPayload payload .null
    (∃ s, read = .ok s ∧ s.pair? = none ∧ ∃ fault,
      site.gate.login session payload target origin = .same (.error fault) session) ∨
    ((∀ s, read = .ok s → ∃ other, s.pair? = some other ∧ other ≠ pair) ∧ ∃ why view,
      site.gate.login session payload target origin =
        ⟨.ok (.refused why view), session, false, judged origin pair read⟩) ∨
    (∃ s, read = .ok s ∧ s.pair? = some pair ∧ ∃ location,
      site.gate.login session payload target origin =
        ⟨.ok (.admitted location), session.withRecord (.text pair.1), true, [.login origin]⟩) := by
  intro read
  have hread := Submission.ofPayload_eq_map payload target
  cases hs : Submission.ofPayload payload .null with
  | error flaw =>
    rw [hs] at hread
    refine Or.inr (Or.inl ⟨fun s hok => (by simp [read, hs] at hok), ?_⟩)
    rw [Gate.login, hread]
    simp only [read, hs]
    exact ⟨_, _, rfl⟩
  | ok s =>
    rw [hs] at hread
    cases hpair : s.pair? with
    | none =>
      obtain ⟨fault, hfault⟩ := Submission.fault?_of_pair?_eq_none hpair
      exact Or.inl ⟨s, hs, hpair, fault, Gate.login_of_fault? hconf hfault hread session origin⟩
    | some other =>
      obtain ⟨u, p⟩ := other
      obtain ⟨hu, hp⟩ := Submission.pair?_eq_some_iff.mp hpair
      have hsub : Submission.ofPayload payload target = .ok ⟨.text u, .text p, target⟩ := by
        rw [hread, ← hu, ← hp]
        rfl
      by_cases heq : (u, p) = pair
      · subst heq
        exact Or.inr (Or.inr ⟨s, hs, hpair, _, Gate.login_of_configured hconf hsub session origin⟩)
      · refine Or.inr (Or.inl ⟨fun t ht => ?_, ?_⟩)
        · obtain rfl := Except.ok.inj (hs.symm.trans ht)
          exact ⟨(u, p), hpair, heq⟩
        · have hwrong : ¬ (u = pair.1 ∧ p = pair.2) := fun h => heq (Prod.ext h.1 h.2)
          have hjudged : judged origin pair read = [.rejected origin] := by
            simp only [read, hs, judged, hpair, if_neg heq]
          rw [hjudged]
          exact ⟨_, _, Gate.login_of_ne hconf hwrong hsub session origin⟩

variable (hconf : site.gate.configured = ⟨.text pair.1, .text pair.2⟩)
include h hconf

/-- A login does nothing, or it is answered with the form, which asks who the visitor is, or it leaves
its record. -/
theorem submitLogin_cases (he : site.endpoint? visit.request = some .submitLogin)
    (session : Session) :
    (∃ result, site.comesBack visit.request pair = false ∧ site.formPair? visit.request = none ∧
      site.loginLog visit.request pair = [] ∧
      site.submitLogin visit session = .same result session) ∨
    (∃ status view, site.comesBack visit.request pair = true ∧
      site.formPair? visit.request ≠ some pair ∧
      site.submitLogin visit session =
        (⟨.ok (), session, false, site.loginLog visit.request pair⟩ : Reply Unit).andThen
          fun _ session => site.showLoginPage visit session status view) ∨
    (∃ result, site.comesBack visit.request pair = false ∧
      site.formPair? visit.request = some pair ∧
      site.loginLog visit.request pair = [.login visit.request.origin] ∧
      site.submitLogin visit session =
        ⟨result, session.withRecord (.text pair.1), true, [.login visit.request.origin]⟩) := by
  cases ht : site.taken? visit.request with
  | none =>
    obtain ⟨result, hr⟩ := submitLogin_of_not_taken he ht
    exact Or.inl ⟨result, by simp [comesBack, ht], by simp [formPair?, ht], by simp [loginLog, ht],
      hr⟩
  | some payload =>
    have hsubmit := submitLogin_of_taken h ht session
    rcases login_judged hconf payload session (Value.ofText? visit.request.target?)
      visit.request.origin with ⟨s, hs, hpair, fault, hlogin⟩ | ⟨hother, why, view, hlogin⟩ |
        ⟨s, hs, hpair, location, hlogin⟩
    · refine Or.inl ⟨.error fault, ?_, ?_, ?_, by rw [hsubmit, hlogin]; rfl⟩
      · simp [comesBack, ht, hs, hpair]
      · simp [formPair?, ht, hs, toOption_ok, hpair]
      · simp [loginLog, ht, hs, judged, hpair]
    · refine Or.inr (Or.inl ⟨why.status, view, ?_, ?_, ?_⟩)
      · cases hs : Submission.ofPayload payload .null with
        | error flaw => simp [comesBack, ht, hs]
        | ok s =>
          obtain ⟨other, hpair, hne⟩ := hother s hs
          simp [comesBack, ht, hs, hpair, hne]
      · cases hs : Submission.ofPayload payload .null with
        | error flaw => simp [formPair?, ht, hs, Except.toOption]
        | ok s =>
          obtain ⟨other, hpair, hne⟩ := hother s hs
          simp [formPair?, ht, hs, toOption_ok, hpair, hne]
      · rw [hsubmit, hlogin, loginLog, ht]
        rfl
    · rw [hlogin, Reply.andThen_of_ok rfl] at hsubmit
      simp only [session_afterLogin_admitted, log_afterLogin_admitted, Bool.true_or,
        List.append_nil] at hsubmit
      refine Or.inr (Or.inr ⟨_, ?_, ?_, ?_, hsubmit⟩)
      · simp [comesBack, ht, hs, hpair]
      · simp [formPair?, ht, hs, toOption_ok, hpair]
      · simp [loginLog, ht, hs, judged, hpair]

end Logins

theorem loginLog_cases (site : Site) (request : Request) (pair : String × String) :
    site.loginLog request pair = [] ∧ site.formPair? request = none ∨
    (∃ flaw, site.loginLog request pair = [.malformed request.origin flaw] ∧
      site.formPair? request = none) ∨
    site.loginLog request pair = [.login request.origin] ∧ site.formPair? request = some pair ∨
    ∃ other, other ≠ pair ∧ site.loginLog request pair = [.rejected request.origin] ∧
      site.formPair? request = some other := by
  unfold loginLog formPair?
  cases site.taken? request with
  | none => exact Or.inl ⟨rfl, rfl⟩
  | some payload =>
    dsimp only [Option.bind_some]
    cases Submission.ofPayload payload .null with
    | error flaw => exact Or.inr (Or.inl ⟨flaw, rfl, rfl⟩)
    | ok s =>
      simp only [judged, toOption_ok, Option.bind_some]
      cases s.pair? with
      | none => exact Or.inl ⟨rfl, rfl⟩
      | some other =>
        by_cases hpair : other = pair
        · exact Or.inr (Or.inr (Or.inl ⟨if_pos hpair, congrArg some hpair⟩))
        · exact Or.inr (Or.inr (Or.inr ⟨other, hpair, if_neg hpair, rfl⟩))

theorem asks_of_headerPair {other : String × String}
    (hv : site.headerPair? visit session pair = some other) :
    site.asksVisitor visit.request pair = true ∧ site.vouchedPair? visit session = some other := by
  unfold headerPair? at hv
  split at hv
  next hasks => exact ⟨hasks, hv⟩
  next => simp at hv

theorem formPair?_of_comesBack {request : Request} (hback : site.comesBack request pair = true) :
    site.formPair? request ≠ some pair := by
  intro hform
  rw [formPair?] at hform
  obtain ⟨payload, ht, hread⟩ := Option.bind_eq_some_iff.mp hform
  obtain ⟨s, hs, hpair⟩ := Option.bind_eq_some_iff.mp hread
  simp [comesBack, ht, ok_of_toOption hs, hpair] at hback

theorem not_accepted_of_asksVisitor {request : Request}
    (hasks : site.asksVisitor request pair = true) :
    site.endpoint? request ≠ some .logout ∧ site.formPair? request ≠ some pair := by
  unfold asksVisitor at hasks
  split at hasks
  next he => exact ⟨by simp [he], by simp [formPair?, taken?_eq_none, he]⟩
  next he => exact ⟨by simp [he], by simp [formPair?, taken?_eq_none, he]⟩
  next he => exact ⟨by simp [he], formPair?_of_comesBack hasks⟩
  next => simp at hasks

section Answers

variable (visit session) {standing : Except Denial String}
  (hs : site.standing visit.request.address = .ok standing)
include hs

theorem answer_of_endpoint {endpoint : Endpoint}
    (he : site.endpoint? visit.request = some endpoint) :
    site.answer standing visit session = match endpoint with
      | .dashboard => site.dashboard visit session
      | .loginForm => site.loginForm visit session
      | .submitLogin => site.submitLogin visit session
      | .logout => site.logout visit.request session := by
  obtain ⟨⟨name, rfl⟩, hroute⟩ := endpoint?_eq_some hs he
  simp only [answer, answerAs, hroute]
  cases endpoint <;> rfl

theorem answer_of_no_endpoint (he : site.endpoint? visit.request = none) :
    ∃ result, site.answer standing visit session = .same result session := by
  unfold answer
  split
  next name =>
    unfold answerAs
    dsimp only
    have hroute : ∀ endpoint, Route.of (site.asked visit.request) visit.request.path ≠
        .endpoint endpoint := by
      intro endpoint hr
      simp [endpoint?, hs, hr] at he
    split
    next => exact ⟨_, rfl⟩
    next => exact ⟨_, rfl⟩
    next => exact ⟨_, rfl⟩
    next => exact ⟨_, rfl⟩
    next => exact ⟨_, rfl⟩
    next hr => exact absurd hr (hroute _)
    next hr => exact absurd hr (hroute _)
    next hr => exact absurd hr (hroute _)
    next hr => exact absurd hr (hroute _)
  next => exact ⟨_, rfl⟩

variable (h : site.settings.IsUsual)

omit hs in
include h in
theorem log_logout (he : site.endpoint? visit.request = some .logout) :
    (site.logout visit.request session).log = site.logoutLog visit.request session := by
  rw [logout, permit_of_isUsual h, Reply.andThen_of_ok rfl, logoutLog, if_pos he]
  dsimp only
  split
  next => exact List.append_nil _
  next => exact List.append_nil _

variable (hconf : site.gate.configured = ⟨.text pair.1, .text pair.2⟩)
include h hconf

theorem log_answer : (site.answer standing visit session).log =
    site.loginLog visit.request pair ++ site.logoutLog visit.request session := by
  have hnot : site.endpoint? visit.request ≠ some .submitLogin →
      site.loginLog visit.request pair = [] := by
    intro he
    rw [loginLog, taken?_eq_none he]
  have hno : site.endpoint? visit.request ≠ some .logout →
      site.logoutLog visit.request session = [] := fun he => if_neg he
  cases he : site.endpoint? visit.request with
  | none =>
    obtain ⟨_, ha⟩ := answer_of_no_endpoint visit session hs he
    rw [ha, hnot (by simp [he]), hno (by simp [he])]
    rfl
  | some endpoint =>
    rw [answer_of_endpoint visit session hs he]
    cases endpoint with
    | dashboard =>
      rw [hnot (by simp [he]), hno (by simp [he])]
      exact log_dashboard h
    | loginForm =>
      rw [hnot (by simp [he]), hno (by simp [he])]
      exact log_showLoginPage h _ _
    | logout =>
      rw [hnot (by simp [he])]
      exact log_logout visit session h he
    | submitLogin =>
      rw [hno (by simp [he]), List.append_nil]
      rcases submitLogin_cases h hconf he session with
        ⟨_, _, _, hlog, hl⟩ | ⟨status, view, _, _, hl⟩ | ⟨_, _, _, hlog, hl⟩
      · simp only [hl, hlog]
        rfl
      · simp only [hl]
        rw [Reply.andThen_of_ok rfl]
        simp only [log_showLoginPage h, List.append_nil]
      · simp only [hl, hlog]

/-- A logout takes the record away; else the right pair leaves its record, wherever it comes from. -/
theorem get?_answer : (site.answer standing visit session).session.get? recordKey =
    if site.endpoint? visit.request = some .logout then none
    else if site.formPair? visit.request = some pair ∨
        site.headerPair? visit session pair = some pair then
      some (loginRecord (.text pair.1))
    else session.get? recordKey := by
  have hform : site.endpoint? visit.request ≠ some .submitLogin →
      site.formPair? visit.request = none := by
    intro he
    rw [formPair?, taken?_eq_none he]
    rfl
  cases he : site.endpoint? visit.request with
  | none =>
    obtain ⟨_, ha⟩ := answer_of_no_endpoint visit session hs he
    rw [ha, hform (by simp [he])]
    simp [headerPair?, asksVisitor, he]
  | some endpoint =>
    rw [answer_of_endpoint visit session hs he]
    cases endpoint with
    | dashboard =>
      rw [hform (by simp [he])]
      simp only [get?_dashboard, get?_visitor h hconf, headerPair?, asksVisitor, he]
      simp
    | loginForm =>
      rw [hform (by simp [he])]
      simp only [loginForm, get?_showLoginPage, get?_visitor h hconf, headerPair?, asksVisitor, he]
      simp
    | logout =>
      rw [if_pos rfl]
      exact (record_of_logout h).1
    | submitLogin =>
      rw [if_neg (by simp)]
      rcases submitLogin_cases h hconf he session with
        ⟨_, hback, hnone, _, hl⟩ | ⟨status, view, hback, hne, hl⟩ | ⟨_, _, hright, _, hl⟩
      · simp [hl, hnone, headerPair?, asksVisitor, he, hback]
      · simp only [hl]
        rw [Reply.andThen_of_ok rfl]
        simp only [get?_showLoginPage, get?_visitor h hconf, headerPair?, asksVisitor, he, hback,
          if_true, hne, false_or]
      · simp only [hl, hright, true_or, if_true]
        exact Session.get?_withRecord session _

/-- A visitor whose header has the right pair checked gets a page. -/
theorem page_of_headerPair (hp : session.IsPlain)
    (hv : site.headerPair? visit session pair = some pair) :
    ∃ status page sent, (site.answer standing visit session).result =
      .ok (.page status page sent) := by
  obtain ⟨hasks, hvouched⟩ := asks_of_headerPair hv
  have hvisitor := visitor_of_vouchedPair h hconf hvouched
  have hshown : ∀ status view, ∃ page sent, (site.showLoginPage visit session status view).result =
      .ok (.page status page sent) := by
    intro status view
    rw [showLoginPage, hvisitor, Reply.andThen_of_ok rfl]
    exact result_showPage (hp.withRecord _) _ _ _
  cases he : site.endpoint? visit.request with
  | none => simp [asksVisitor, he] at hasks
  | some endpoint =>
    rw [answer_of_endpoint visit session hs he]
    cases endpoint with
    | dashboard =>
      dsimp only
      rw [dashboard, hvisitor, Reply.andThen_of_ok rfl]
      exact ⟨200, result_showPage (hp.withRecord _) _ _ _⟩
    | loginForm => exact ⟨200, hshown _ _⟩
    | logout => simp [asksVisitor, he] at hasks
    | submitLogin =>
      rcases submitLogin_cases h hconf he session with
        ⟨_, hback, _⟩ | ⟨status, view, _, _, hl⟩ | ⟨_, hback, _⟩
      · simp [asksVisitor, he, hback] at hasks
      · dsimp only
        rw [hl, Reply.andThen_of_ok rfl]
        exact ⟨status, hshown status view⟩
      · simp [asksVisitor, he, hback] at hasks

end Answers

end Site

end Gatehouse
