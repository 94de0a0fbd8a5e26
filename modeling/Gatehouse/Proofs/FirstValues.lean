import Gatehouse.Proofs.Audit
import Gatehouse.Proofs.Channel.Fields
import Gatehouse.Proofs.Channels
import Gatehouse.Proofs.Pages
import Gatehouse.Proofs.Route
import Gatehouse.Proofs.Service

namespace Gatehouse

open Relation (EqvGen)

/-- What a login by a form is told: a username, a password and a target, if they are there. -/
structure FirstValues where
  username : Option String
  password : Option String
  target : Option String
  deriving DecidableEq

/-- The payload of a login that holds a pair and nothing else. -/
def pairPayload (username password : String) : Datum :=
  .ofFields [("session", .ofFields [("username", .text username), ("password", .text password)])]

theorem holds_pairPayload (u p : String) : Submission.Holds (pairPayload u p)
    ⟨.text u, .text p⟩ :=
  ⟨_, _, rfl, rfl, rfl, rfl, rfl, rfl⟩

/-- Payloads that hold the same pair lead to the same. -/
theorem Gate.login_congr {payload other : Datum} {pair : Credential}
    (h : Submission.Holds payload pair) (h' : Submission.Holds other pair) (gate : Gate)
    (session : Session) (target origin : Value) :
    gate.login session payload target origin = gate.login session other target origin := by
  simp only [Gate.login, Submission.ofPayload_of_holds h, Submission.ofPayload_of_holds h']

namespace Request

variable {request : Request}

/-- The first values under the names of the login. A target in the query stands before one in the
form. -/
def firstValues (r : Request) : FirstValues where
  username := Query.first? "session[username]" (Query.read r.body.toList)
  password := Query.first? "session[password]" (Query.read r.body.toList)
  target := (Query.first? "redirect_to" (Query.read r.query.toList)).or
    (Query.first? "redirect_to" (Query.read r.body.toList))

theorem formPairs_of_isForm (h : request.isForm = true) :
    request.formPairs = Query.read request.body.toList := by
  rw [formPairs, if_pos h]

theorem target?_of_isForm (h : request.isForm = true) :
    request.target? = request.firstValues.target := by
  rw [target?, formPairs_of_isForm h, queryTarget?, queryPairs]
  change _ = Option.or (Query.first? targetName _) _
  cases Query.first? targetName (Query.read request.query.toList) <;> rfl

/-- The names under which a body is read: a target in it does not count if the query has one. -/
def bodyNames (r : Request) : List String :=
  ["session[username]", "session[password]"] ++
    if (Query.first? "redirect_to" (Query.read r.query.toList)).isSome then []
    else ["redirect_to"]

/-- The pairs of query and body may be padded with others. -/
theorem firstValues_of_eqvGen {query body : String}
    (hquery : EqvGen (Query.Pads ["redirect_to"]) (Query.read request.query.toList)
      (Query.read query.toList))
    (hbody : EqvGen (Query.Pads request.bodyNames) (Query.read request.body.toList)
      (Query.read body.toList)) :
    ({ request with query, body } : Request).firstValues = request.firstValues := by
  have htarget := Query.first?_of_eqvGen hquery (List.mem_singleton.mpr rfl)
  have husername : Query.first? "session[username]" (Query.read body.toList) =
      Query.first? "session[username]" (Query.read request.body.toList) :=
    Query.first?_of_eqvGen hbody (by simp [bodyNames])
  have hpassword : Query.first? "session[password]" (Query.read body.toList) =
      Query.first? "session[password]" (Query.read request.body.toList) :=
    Query.first?_of_eqvGen hbody (by simp [bodyNames])
  simp only [firstValues, htarget, husername, hpassword, FirstValues.mk.injEq, true_and]
  cases hsome : Query.first? "redirect_to" (Query.read request.query.toList) with
  | some target => rfl
  | none =>
    have hmem : "redirect_to" ∈ request.bodyNames := by simp [bodyNames, hsome]
    rw [Query.first?_of_eqvGen hbody hmem]

end Request

namespace Site

variable {site : Site} {request : Request} {b : Browser} {session : Session} {u p : String}

section Reading

variable (hform : request.isForm = true)
include hform

theorem login_of_pair (hu : request.firstValues.username = some u)
    (hp : request.firstValues.password = some p) (gate : Gate) (session : Session)
    (target origin : Value) :
    gate.login session request.formPayload target origin =
      gate.login session (pairPayload u p) target origin := by
  refine Gate.login_congr (Request.holds_formPayload ?_ ?_) (holds_pairPayload u p) _ _ _ _
  · rw [Request.formPairs_of_isForm hform]
    exact hu
  · rw [Request.formPairs_of_isForm hform]
    exact hp

theorem lacks_of_missing
    (h : request.firstValues.username = none ∨ request.firstValues.password = none) :
    Submission.Lacks request.formPayload request.formFlaw := by
  refine Request.lacks_formPayload ?_
  rw [Request.formPairs_of_isForm hform]
  exact h

/-- The flaw of a form with a field missing tells whether it has any field of a login. -/
theorem formFlaw_iff : (request.formFlaw = .noSession ↔
    ∀ field, Query.first? (Request.fieldName field) (Query.read request.body.toList) = none) := by
  rw [← Request.formPairs_of_isForm hform, ← Request.formFields_eq_nil_iff, Request.formFlaw]
  split
  next hnone => simp [hnone]
  next hsome => simp [hsome]

theorem submitLogin_of_isForm (h : site.settings.IsUsual)
    (hfits : request.octets.length ≤ mostOctets) (cookies : List Cookie) (session : Session) :
    site.submitLogin ⟨request, cookies⟩ session =
      (site.gate.login session request.formPayload (Value.ofText? request.firstValues.target)
        request.origin).andThen fun outcome session =>
          site.afterLogin ⟨request, cookies⟩ outcome session := by
  have hlong : site.tooLong request = .ok false := by
    rw [tooLong_of_isForm h hform, decide_eq_false (Nat.not_lt.mpr hfits)]
  simp only [submitLogin, hlong, Request.payload_of_isForm hform,
    Request.target?_of_isForm hform, permit_of_isUsual h]

end Reading

/-- A response passes an outcome of the gate on: it shows the login form with the view of the outcome,
or leads to its location. -/
inductive PassesOn (request : Request) (session : Session) : Outcome → Response → Prop where
  | page {outcome : Outcome} {view : FormView} {notices : List Notice}
    (hview : outcome.view? = some view) (hnotices : session.takeNotices.result = .ok notices) :
    PassesOn request session outcome
      (.page outcome.status ⟨request.address.root, notices, loginContent view⟩ true)
  | redirect {location : Value} {sent : String} (hleads : Leads location sent) :
    PassesOn request session (.admitted location) (.redirect sent)

/-- A request is answered with the outcome of a login, its record is left in the session, and its log
is all that is logged. -/
structure IsRelayed (site : Site) (request : Request) (b : Browser) (login : Reply Outcome) :
    Prop where
  answered : ∃ outcome response, login.result = .ok outcome ∧
    (site.respond request b).result = .ok response ∧ response.status = outcome.status ∧
    PassesOn request (b.sessionAt request.address.cookieHost) outcome response
  record : site.recordAfter request b = login.session.get? recordKey
  log : (site.respond request b).log = login.log

theorem log_conclude_of_ok {reply : Reply Response} {sent : Response}
    (h : (site.conclude request b reply).result = .ok sent) (hne : sent ≠ .failed) :
    (site.conclude request b reply).log = reply.log := by
  unfold conclude at h ⊢
  split at h
  next => exact absurd (afterFault_eq_ok h) hne
  next =>
    split at h
    next => exact log_send _ _ _
    next => exact absurd (afterFault_eq_ok h) hne

/-- Who sends no header is known by the session or not at all. -/
theorem identify_of_unvouched (hauth : request.authorization = none) (session : Session) :
    ∃ who, site.identify request session = .same (.ok who) session := by
  unfold identify
  cases session.username? with
  | some username => exact ⟨some username, rfl⟩
  | none =>
    rw [Request.basicPair?, hauth]
    exact ⟨none, rfl⟩

theorem showLoginPage_of_same {visit : Visit} (hp : session.IsPlain) {who : Option String}
    (hvisitor : site.visitor visit session = .same (.ok who) session) (status : Nat)
    (view : FormView) : ∃ notices, session.takeNotices.result = .ok notices ∧
      (site.showLoginPage visit session status view).result =
        .ok (.page status ⟨visit.request.address.root, notices, loginContent view⟩
          !visit.request.wantsHead) := by
  obtain ⟨notices, hnotices⟩ := hp.takeNotices_ok
  refine ⟨notices, hnotices, ?_⟩
  rw [showLoginPage, hvisitor, Reply.andThen_of_ok rfl]
  change session.takeNotices.result.map _ = _
  rw [hnotices]
  rfl

section Relay

variable (h : site.settings.IsUsual) (ho : b.IsOwn site) (hb : b.IsTokenless)
  (ha : request.address.IsRooted) {mark : String} (hmark : request.mark = .ok mark) {name : String}
  (hs : site.standing request.address = .ok (.ok name))
  (hroute : Route.of (site.asked request) request.path = .endpoint .submitLogin)
  (hauth : request.authorization = none)

include hroute in
theorem not_wantsHead_of_submitLogin : request.wantsHead = false := by
  obtain ⟨_, _, _, hmethod, hne⟩ := Route.of_eq_endpoint_iff.mp hroute
  refine not_wantsHead (Or.inr ?_)
  have hmem : request.method ∈ [Method.options, Method.post] := hmethod
  simp only [List.mem_cons, List.not_mem_nil, or_false] at hmem
  exact hmem.resolve_left hne

include h ho hb ha hmark hauth in
theorem visitor_of_unvouchedOwn : ∃ who,
    site.visitor ⟨request, b.shownAt request.address⟩ (b.sessionAt request.address.cookieHost) =
      .same (.ok who) (b.sessionAt request.address.cookieHost) := by
  have htoken := Browser.heeded?_of_tokenless (hb request.address.cookieHost)
  rw [visitor_of_unheeded h ho.usual ha htoken hmark]
  exact identify_of_unvouched hauth _

include h ho ha hs in
/-- What an answer has logged is all that is logged, if it can be sent. -/
theorem log_respond_of_made {made sent : Response}
    (hmade : (site.replyTo request b (.ok name)).result = .ok made)
    (hsealed : made.sealed = .ok sent) (hne : sent ≠ .failed) :
    (site.respond request b).log = (site.replyTo request b (.ok name)).log := by
  have hsent := respond_ok h ho.usual ha (ho.plain _) hs hmade hsealed
  rw [respond_eq_conclude h ho.usual ha hs] at hsent ⊢
  exact log_conclude_of_ok hsent hne

variable {login : Reply Outcome}
  (hsubmit : site.submitLogin ⟨request, b.shownAt request.address⟩
      (b.sessionAt request.address.cookieHost) =
    login.andThen fun outcome session =>
      site.afterLogin ⟨request, b.shownAt request.address⟩ outcome session)

include h ho hb ha hmark hs hroute hauth hsubmit in
/-- A login that is refused is passed on. -/
theorem isRelayed_of_refused {why : Refusal} {view : FormView} {log : List Event}
    (hlogin : login =
      ⟨.ok (.refused why view), b.sessionAt request.address.cookieHost, false, log⟩) :
    site.IsRelayed request b login := by
  obtain ⟨who, hvisitor⟩ := visitor_of_unvouchedOwn h ho hb ha hmark hauth
  obtain ⟨notices, hnotices, hpage⟩ :=
    showLoginPage_of_same (ho.plain request.address.cookieHost) hvisitor why.status view
  have hreply : site.replyTo request b (.ok name) =
      ⟨.ok (.page why.status ⟨request.address.root, notices, loginContent view⟩ true),
        (site.showLoginPage ⟨request, b.shownAt request.address⟩
          (b.sessionAt request.address.cookieHost) why.status view).session,
        (site.showLoginPage ⟨request, b.shownAt request.address⟩
          (b.sessionAt request.address.cookieHost) why.status view).written, log⟩ := by
    rw [replyTo_of_route hroute, hsubmit, hlogin, Reply.andThen_of_ok rfl]
    simp only [afterLogin, Outcome.location, Outcome.view?, Outcome.status, hpage,
      not_wantsHead_of_submitLogin hroute, Bool.not_false, Bool.false_or, log_showLoginPage h,
      List.append_nil]
  have hmade : (site.replyTo request b (.ok name)).result =
      .ok (.page why.status ⟨request.address.root, notices, loginContent view⟩ true) := by
    rw [hreply]
  refine ⟨⟨_, _, by rw [hlogin], respond_ok h ho.usual ha (ho.plain _) hs hmade rfl, rfl,
    .page rfl hnotices⟩, ?_, ?_⟩
  · rw [recordAfter_of_made h ho ha hs hmade rfl, hreply, hlogin]
    dsimp only
    rw [get?_showLoginPage, hvisitor]
    rfl
  · rw [log_respond_of_made h ho ha hs hmade rfl (by simp), hreply, hlogin]

include h ho ha hs hroute hsubmit in
/-- A login that is admitted is passed on if its location can be sent. -/
theorem isRelayed_of_admitted {location : Value} {sent : String} (hleads : Leads location sent)
    {after : Session} {log : List Event}
    (hlogin : login = ⟨.ok (.admitted location), after, true, log⟩) :
    site.IsRelayed request b login := by
  obtain ⟨hne, made, hmade, hsealed⟩ := hleads
  have hreply : site.replyTo request b (.ok name) = ⟨.ok made, after, true, log⟩ := by
    rw [replyTo_of_route hroute, hsubmit, hlogin, Reply.andThen_of_ok rfl]
    dsimp only
    rw [afterLogin_admitted hne, hmade]
    simp [Reply.same]
  have hresult : (site.replyTo request b (.ok name)).result = .ok made := by rw [hreply]
  refine ⟨⟨_, _, by rw [hlogin], respond_ok h ho.usual ha (ho.plain _) hs hresult hsealed, rfl,
    .redirect ⟨hne, made, hmade, hsealed⟩⟩, ?_, ?_⟩
  · rw [recordAfter_of_made h ho ha hs hresult hsealed, hreply, hlogin]
  · rw [log_respond_of_made h ho ha hs hresult hsealed (by simp), hreply, hlogin]

end Relay

section Log

/-- What is logged before an answer is sent changes nothing else. -/
theorem send_relog (response : Response) (orders : List Cookie.Order) (b : Browser)
    (log more : List Event) :
    (send response orders b more).result = (send response orders b log).result ∧
      (send response orders b more).browser = (send response orders b log).browser := by
  unfold send
  cases response.sealed with
  | error flaw => exact ⟨rfl, rfl⟩
  | ok sent =>
    cases b.receive orders with
    | error fault => exact ⟨rfl, rfl⟩
    | ok received => exact ⟨rfl, rfl⟩

theorem afterFault_relog (fault : Fault) (session : Session) (written : Bool)
    (log more : List Event) :
    (site.afterFault request b fault session written more).result =
        (site.afterFault request b fault session written log).result ∧
      (site.afterFault request b fault session written more).browser =
        (site.afterFault request b fault session written log).browser := by
  unfold afterFault
  cases site.raises with
  | true => exact ⟨rfl, rfl⟩
  | false =>
    cases site.settle request.address session written with
    | ok orders => exact send_relog _ _ _ _ _
    | error fault => exact ⟨rfl, rfl⟩

theorem conclude_relog (reply : Reply Response) (more : List Event) :
    (site.conclude request b { reply with log := more }).result =
        (site.conclude request b reply).result ∧
      (site.conclude request b { reply with log := more }).browser =
        (site.conclude request b reply).browser := by
  unfold conclude
  cases reply.result with
  | error fault => exact afterFault_relog _ _ _ _ _
  | ok response =>
    dsimp only
    cases site.settle request.address reply.session reply.written with
    | ok orders => exact send_relog _ _ _ _ _
    | error fault => exact afterFault_relog _ _ _ _ _

end Log

section Logins

variable {cu cp : String} (hconf : site.gate.configured = ⟨.text cu, .text cp⟩)
include hconf

theorem login_pairPayload (u p : String) (session : Session) (target origin : Value) :
    site.gate.login session (pairPayload u p) target origin =
      if u = cu ∧ p = cp then
        ⟨.ok (.admitted (Target.resolve target site.gate.landing)), session.withRecord (.text u),
          true, [.login origin]⟩
      else ⟨.ok (.refused .wrongCredentials
        (.returned u p target Refusal.wrongCredentials.notice)), session, false,
        [.rejected origin]⟩ := by
  have hread : Submission.ofPayload (pairPayload u p) target =
      .ok ⟨.text u, .text p, target⟩ :=
    Submission.ofPayload_of_holds (holds_pairPayload u p)
  split
  next hright =>
    obtain ⟨rfl, rfl⟩ := hright
    exact Gate.login_of_configured hconf hread session origin
  next hwrong => exact Gate.login_of_ne hconf hwrong hread session origin

end Logins

/-- A login by a form and by nothing else, sent to the site under a name of its own, and short enough
to be read. -/
structure IsFormLogin (site : Site) (request : Request) : Prop where
  standing : ∃ name, site.standing request.address = .ok (.ok name)
  route : Route.of (site.asked request) request.path = .endpoint .submitLogin
  isForm : request.isForm = true
  unvouched : request.authorization = none
  origin : ∃ origin?, request.origin = .ofText? origin?
  fits : request.octets.length ≤ mostOctets

/-- The view of a login form after a submission without a pair. -/
def malformedView : FormView := .make .null .null (.text Refusal.malformedPayload.notice)

/-- What the gate makes of a form that lacks a field. -/
def malformedLogin (request : Request) (session : Session) (flaw : Flaw) : Reply Outcome :=
  ⟨.ok (.refused .malformedPayload malformedView), session, false,
    [.malformed request.origin flaw]⟩

section FormLogins

variable (h : site.settings.IsUsual) (ho : b.IsOwn site) (hb : b.IsTokenless)
  (ha : request.address.IsRooted) (hl : site.IsFormLogin request) {cu cp : String}
  (hconf : site.gate.configured = ⟨.text cu, .text cp⟩)

include h ho hb ha hl

theorem isRelayed_of_missing
    (hmissing : request.firstValues.username = none ∨ request.firstValues.password = none) :
    site.IsRelayed request b
      (malformedLogin request (b.sessionAt request.address.cookieHost) request.formFlaw) := by
  obtain ⟨origin?, horigin⟩ := hl.origin
  obtain ⟨mark, hmark⟩ := Request.exists_mark horigin
  obtain ⟨name, hs⟩ := hl.standing
  refine isRelayed_of_refused h ho hb ha hmark hs hl.route hl.unvouched ?_ rfl
  rw [submitLogin_of_isForm hl.isForm h hl.fits,
    Gate.login_of_lacks (lacks_of_missing hl.isForm hmissing)]
  rfl

include hconf

theorem isRelayed_of_pair (hu : request.firstValues.username = some u)
    (hp : request.firstValues.password = some p)
    (hreach : u = cu ∧ p = cp → ∃ sent,
      Leads (Target.resolve (Value.ofText? request.firstValues.target) site.gate.landing) sent) :
    site.IsRelayed request b (site.gate.login (b.sessionAt request.address.cookieHost)
      (pairPayload u p) (Value.ofText? request.firstValues.target) request.origin) := by
  obtain ⟨origin?, horigin⟩ := hl.origin
  obtain ⟨mark, hmark⟩ := Request.exists_mark horigin
  obtain ⟨name, hs⟩ := hl.standing
  have hsubmit := submitLogin_of_isForm hl.isForm h hl.fits (b.shownAt request.address)
    (b.sessionAt request.address.cookieHost)
  rw [login_of_pair hl.isForm hu hp] at hsubmit
  have hlogin := login_pairPayload hconf u p (b.sessionAt request.address.cookieHost)
    (Value.ofText? request.firstValues.target) request.origin
  by_cases hright : u = cu ∧ p = cp
  · obtain ⟨sent, hleads⟩ := hreach hright
    rw [if_pos hright] at hlogin
    exact isRelayed_of_admitted h ho ha hs hl.route hsubmit hleads hlogin
  · rw [if_neg hright] at hlogin
    exact isRelayed_of_refused h ho hb ha hmark hs hl.route hl.unvouched hsubmit hlogin

theorem status_of_formLogin (hreach : request.firstValues.username = some cu →
      request.firstValues.password = some cp → ∃ sent,
        Leads (Target.resolve (Value.ofText? request.firstValues.target) site.gate.landing) sent) :
    ∃ response, (site.respond request b).result = .ok response ∧
      (response.status = 400 ↔
        request.firstValues.username = none ∨ request.firstValues.password = none) := by
  by_cases hmissing :
      request.firstValues.username = none ∨ request.firstValues.password = none
  · obtain ⟨outcome, response, hlogin, hsent, hstatus, _⟩ :=
      (isRelayed_of_missing h ho hb ha hl hmissing).answered
    obtain rfl := Except.ok.inj hlogin
    exact ⟨response, hsent, iff_of_true hstatus hmissing⟩
  · obtain ⟨hu, hp⟩ := not_or.mp hmissing
    obtain ⟨u, hu⟩ := Option.ne_none_iff_exists'.mp hu
    obtain ⟨p, hp⟩ := Option.ne_none_iff_exists'.mp hp
    obtain ⟨outcome, response, hlogin, hsent, hstatus, _⟩ :=
      (isRelayed_of_pair h ho hb ha hl hconf hu hp fun hright =>
        hreach (by rw [hu, hright.1]) (by rw [hp, hright.2])).answered
    refine ⟨response, hsent, iff_of_false ?_ hmissing⟩
    rw [login_pairPayload hconf] at hlogin
    rw [hstatus]
    split at hlogin
    next =>
      obtain rfl := Except.ok.inj hlogin
      simp [Outcome.status]
    next =>
      obtain rfl := Except.ok.inj hlogin
      simp [Outcome.status, Refusal.status]

omit ho hb ha hconf in
/-- A login with the same first values is the same but for what is logged of a field that is
missing. -/
theorem submitLogin_of_alike {query body : String}
    (hfits : ({ request with query, body } : Request).octets.length ≤ mostOctets)
    (hfirst : ({ request with query, body } : Request).firstValues = request.firstValues)
    (cookies : List Cookie) (session : Session) :
    (∃ log, site.submitLogin ⟨{ request with query, body }, cookies⟩ session =
      { site.submitLogin ⟨request, cookies⟩ session with log }) ∧
    (request.firstValues.username ≠ none → request.firstValues.password ≠ none →
      site.submitLogin ⟨{ request with query, body }, cookies⟩ session =
        site.submitLogin ⟨request, cookies⟩ session) := by
  have hform : ({ request with query, body } : Request).isForm = true := hl.isForm
  have hsubmit := submitLogin_of_isForm hl.isForm h hl.fits cookies session
  have hother := submitLogin_of_isForm hform h hfits cookies session
  rw [hfirst] at hother
  rw [hsubmit, hother]
  by_cases hmissing :
      request.firstValues.username = none ∨ request.firstValues.password = none
  · rw [Gate.login_of_lacks (lacks_of_missing hl.isForm hmissing),
      Gate.login_of_lacks (lacks_of_missing hform (by rwa [hfirst])), Reply.andThen_of_ok rfl,
      Reply.andThen_of_ok rfl]
    refine ⟨⟨_, rfl⟩, fun hu hp => ?_⟩
    rcases hmissing with hnone | hnone
    · exact absurd hnone hu
    · exact absurd hnone hp
  · obtain ⟨hu, hp⟩ := not_or.mp hmissing
    obtain ⟨u, hu⟩ := Option.ne_none_iff_exists'.mp hu
    obtain ⟨p, hp⟩ := Option.ne_none_iff_exists'.mp hp
    rw [login_of_pair hl.isForm hu hp, login_of_pair hform (by rwa [hfirst]) (by rwa [hfirst])]
    exact ⟨⟨_, rfl⟩, fun _ _ => rfl⟩

omit hb hconf in
theorem respond_of_alike {query body : String}
    (hfits : ({ request with query, body } : Request).octets.length ≤ mostOctets)
    (hfirst : ({ request with query, body } : Request).firstValues = request.firstValues) :
    (site.respond { request with query, body } b).result = (site.respond request b).result ∧
    (site.respond { request with query, body } b).browser = (site.respond request b).browser ∧
    (request.firstValues.username ≠ none → request.firstValues.password ≠ none →
      (site.respond { request with query, body } b).log = (site.respond request b).log) := by
  obtain ⟨name, hs⟩ := hl.standing
  have hroute : Route.of (site.asked { request with query, body })
      ({ request with query, body } : Request).path = .endpoint .submitLogin := hl.route
  obtain ⟨⟨log, halike⟩, hsame⟩ := submitLogin_of_alike h hl hfits hfirst
    (b.shownAt request.address) (b.sessionAt request.address.cookieHost)
  have hother : site.replyTo { request with query, body } b (.ok name) =
      site.submitLogin ⟨{ request with query, body }, b.shownAt request.address⟩
        (b.sessionAt request.address.cookieHost) :=
    replyTo_of_route hroute
  have hconclude : ∀ reply, site.conclude { request with query, body } b reply =
      site.conclude request b reply := fun _ => rfl
  have hothers : site.respond { request with query, body } b = site.conclude request b
      (site.submitLogin ⟨{ request with query, body }, b.shownAt request.address⟩
        (b.sessionAt request.address.cookieHost)) := by
    rw [@respond_eq_conclude site { request with query, body } b h ho.usual ha _ hs, hother,
      hconclude]
  rw [respond_eq_conclude h ho.usual ha hs, replyTo_of_route hl.route]
  refine ⟨?_, ?_, fun hu hp => ?_⟩
  · rw [hothers, halike]
    exact (conclude_relog _ _).1
  · rw [hothers, halike]
    exact (conclude_relog _ _).2
  · rw [hothers, hsame hu hp]

end FormLogins

/-- Whatever was sent before, a login by a form is answered with what the gate makes of its first
values, and a form that lacks a username or a password, just as one that has neither, with status 400.
What else stands in the query and the body counts for nothing, but that the log tells of a form without
any field of a login. It takes that the place where the configured pair leads can be sent. -/
theorem respond_of_firstValues {s : Settings} (hu : s.IsUsual) (hs : s.site = .ok site)
    {cu cp : String} (hname : s.username = .text cu) (hpass : s.password = .text cp)
    (past : List Sending) (client : String) {message : Message} {address : String}
    (hsent : message.sentTo s.base address = .ok request) (hlogin : site.IsFormLogin request)
    (hreach : request.firstValues.username = some cu → request.firstValues.password = some cp →
      ∃ sent, Leads
        (Target.resolve (Value.ofText? request.firstValues.target) site.gate.landing) sent) :
    let b := (site.browsers past).getD client .new
    let session := site.sessionOf past client request.address.cookieHost
    let first := request.firstValues
    (∃ response, (site.respond request b).result = .ok response ∧
      (response.status = 400 ↔ first.username = none ∨ first.password = none)) ∧
    (∀ u p, first.username = some u → first.password = some p →
      site.IsRelayed request b (site.gate.login session
        (.ofFields [("session", .ofFields [("username", .text u), ("password", .text p)])])
        (Value.ofText? first.target) request.origin)) ∧
    (first.username = none ∨ first.password = none →
      ∃ flaw, (flaw = .noSession ∨ flaw = .notTexts) ∧
        (flaw = .noSession ↔ ∀ field,
          Query.first? ("session[" ++ field ++ "]") (Query.read request.body.toList) = none) ∧
        site.IsRelayed request b (malformedLogin request session flaw)) ∧
    (∀ query body : String,
      let other : Request := { request with query, body }
      other.octets.length ≤ mostOctets → other.firstValues = first →
      (site.respond other b).result = (site.respond request b).result ∧
      (site.respond other b).browser = (site.respond request b).browser ∧
      (first.username ≠ none → first.password ≠ none →
        (site.respond other b).log = (site.respond request b).log)) ∧
    ∀ query body : String,
      EqvGen (Query.Pads ["redirect_to"]) (Query.read request.query.toList)
        (Query.read query.toList) →
      EqvGen (Query.Pads request.bodyNames) (Query.read request.body.toList)
        (Query.read body.toList) →
      ({ request with query, body } : Request).firstValues = first := by
  intro b session first
  obtain ⟨rfl, hconf, _⟩ := site_eq_ok hs
  rw [hname, hpass] at hconf
  have ho : b.IsOwn site := isOwn_browsers hu past client
  have hb : b.IsTokenless := isTokenless_browsers hu past client
  have ha := isRooted_of_sentTo hu hsent
  refine ⟨status_of_formLogin hu ho hb ha hlogin hconf hreach, ?_, ?_, ?_, ?_⟩
  · intro u p husername hpassword
    exact isRelayed_of_pair hu ho hb ha hlogin hconf husername hpassword fun hright =>
      hreach (hright.1 ▸ husername) (hright.2 ▸ hpassword)
  · intro hmissing
    have hflaw : request.formFlaw = .noSession ∨ request.formFlaw = .notTexts := by
      unfold Request.formFlaw
      split
      next => exact Or.inl rfl
      next => exact Or.inr rfl
    exact ⟨request.formFlaw, hflaw, formFlaw_iff hlogin.isForm,
      isRelayed_of_missing hu ho hb ha hlogin hmissing⟩
  · exact fun query body hfits hfirst => respond_of_alike hu ho ha hlogin hfits hfirst
  · exact fun query body hquery hbody => Request.firstValues_of_eqvGen hquery hbody

theorem firstValues_formLogin (username password : String) :
    (formLogin username password).firstValues = ⟨some username, some password, none⟩ := by
  have hbody : Query.read (formLogin username password).body.toList =
      [("session[username]", username), ("session[password]", password)] := by
    change Query.read (loginBody username password).toList = _
    rw [loginBody, String.toList_ofList, Query.read_write]
  rw [Request.firstValues, hbody]
  rfl

/-- A form as it is posted with a query. -/
def postForm (caller : Caller) (query body : String) : Request :=
  { postLogin caller (String.ofList Request.formType) body with query }

theorem isFormLogin_postForm (h : site.settings.IsUsual) (caller : Caller) {query body : String}
    (hfits : (Utf8.encode body.toList).length ≤ mostOctets) :
    site.IsFormLogin (postForm caller query body) where
  standing := ⟨_, standing_home h "/login"⟩
  route := route_postLogin h caller (String.ofList Request.formType) body
  isForm := Request.isForm_of_contentType rfl
  unvouched := rfl
  origin := ⟨some caller.origin, rfl⟩
  fits := hfits

/-- A form with more fields than it needs, the first of them in escapes. -/
def crowdedLogin : Request :=
  postForm neighbour "redirect_to=%2Fa&redirect_to=%2Fc"
    ("session[]=x&session%5Busername%5D=admin&session[username]=root&session[password]=correct" ++
      "&session[username][y]=z&redirect_to=%2Fb")

/-- The first values decide, and a plain form with the same ones leads to the same. -/
theorem respond_of_crowdedLogin :
    let b := (forTests.browsers [⟨"visitor", "/", vouched⟩]).getD "visitor" .new
    let session := forTests.sessionOf [⟨"visitor", "/", vouched⟩] "visitor" Address.ownHost
    forTests.IsRelayed crowdedLogin b (forTests.gate.login session (pairPayload "admin" "correct")
        (.text "/a") (.text "127.0.0.1")) ∧
      (forTests.respond (postForm neighbour "redirect_to=/a" (loginBody "admin" "correct")) b).result =
        (forTests.respond crowdedLogin b).result := by
  intro b session
  have hsent : crowdedLogin.sentTo Settings.forTests.base "/login" = .ok crowdedLogin :=
    sentTo_of_read isUsual_forTests read_login (by decide +kernel)
  have hlogin : forTests.IsFormLogin crowdedLogin :=
    isFormLogin_postForm isUsual_forTests neighbour (by decide +kernel)
  have hfirst : crowdedLogin.firstValues = ⟨some "admin", some "correct", some "/a"⟩ := by
    decide +kernel
  obtain ⟨_, hrelayed, _, halike, _⟩ := respond_of_firstValues isUsual_forTests site_forTests rfl
    rfl [⟨"visitor", "/", vouched⟩] "visitor" hsent hlogin fun _ _ =>
      exists_leads_of_resolve leads_forTests _
  rw [hfirst] at hrelayed halike
  exact ⟨hrelayed "admin" "correct" rfl rfl,
    (halike "redirect_to=/a" (loginBody "admin" "correct") (by decide +kernel)
      (by decide +kernel)).1⟩

/-- So there are forms that are not answered by their first values: one that is too long, and one whose
pair is right where the landing place cannot be sent. And a field that is not read may show in the log
of a form without a pair. -/
theorem formLogin_not_relayed :
    ({ Settings.forTests with landing := some (.text "/\n") }.site = .ok brokenLanding ∧
      (formLogin "admin" "correct").firstValues = ⟨some "admin", some "correct", none⟩ ∧
      ¬ brokenLanding.IsRelayed (formLogin "admin" "correct") .new
        (brokenLanding.gate.login ∅ (pairPayload "admin" "correct") .null (.text "127.0.0.1"))) ∧
    (∃ site, (Settings.forTests.withPair "admin" longPassword).site = .ok site ∧
      (formLogin "admin" longPassword).firstValues = ⟨some "admin", some longPassword, none⟩ ∧
      (site.respond (formLogin "admin" longPassword) .new).result = .ok (.denied .tooLarge true)) ∧
    (postForm neighbour "" "session[x]=1").firstValues = (postForm neighbour "" "").firstValues ∧
      (forTests.respond (postForm neighbour "" "session[x]=1") .new).log.map Event.message ≠
        (forTests.respond (postForm neighbour "" "") .new).log.map Event.message := by
  refine ⟨⟨rfl, firstValues_formLogin _ _, ?_⟩, ⟨_, site_of_withPair (by decide) longPassword_ne,
    firstValues_formLogin _ _, ?_⟩, by decide +kernel, by decide +kernel⟩
  · rintro ⟨⟨_, response, _, hsent, _⟩, _, _⟩
    have hnone : (brokenLanding.respond (formLogin "admin" "correct") .new).result.toOption = none :=
      by decide +kernel
    rw [hsent] at hnone
    cases hnone
  · exact respond_of_tooLong (isUsual_withPair _ _) (Browser.isNewcomer_new _)
      (Nat.le_of_eq length_longPassword.symm)

end Site

end Gatehouse
