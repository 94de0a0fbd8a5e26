import Gatehouse.Proofs.Checked
import Gatehouse.Proofs.Gate.Verdict
import Gatehouse.Proofs.Guard
import Gatehouse.Proofs.History

namespace Gatehouse

open Relation (ReflTransGen)

/-- A browser without tokens. -/
def Browser.IsTokenless (b : Browser) : Prop :=
  ∀ host, Cookie.get? (Cookie.tokenKey host) b.cookies = none

theorem Request.exists_mark {r : Request} {origin? : Option String}
    (ho : r.origin = .ofText? origin?) : ∃ mark, r.mark = .ok mark := by
  cases origin? with
  | some origin => exact Site.mark_of_origin ho
  | none =>
    have horigin : r.originText = .ok Value.null.literal := by
      rw [originText, ho]
      rfl
    rw [mark, horigin]
    exact ⟨_, rfl⟩

/-- Whole texts can be compared with no other pair than one of whole texts. -/
theorem Credential.exists_accepts_iff {c : Credential} {u p : String} :
    (∃ accepted, c.accepts ⟨.text u, .text p⟩ = .ok accepted) ↔
      ∃ cu cp, c = ⟨.text cu, .text cp⟩ := by
  constructor
  · rintro ⟨accepted, haccepted⟩
    obtain ⟨name?, hname, _⟩ := map_eq_ok_iff.mp haccepted
    obtain ⟨comparison, hcompare, _⟩ := map_eq_ok_iff.mp hname
    exact (texts_of_compareWith hcompare).2.imp fun _ h => h.imp fun _ h => h.1
  · rintro ⟨cu, cp, rfl⟩
    exact ⟨_, accepts_texts u p cu cp⟩

/-- The status with which a login is answered that comes to a verdict. -/
def Verdict.status : Verdict → Nat
  | .malformed _ => 400
  | .compared (.odd _) => 500
  | .compared (.different _ _) => 401
  | .compared (.same _) => 302

namespace Site

variable {site : Site} {request : Request} {b : Browser} {visit : Visit} {session : Session}
  {payload : Datum} {verdict : Verdict}

section Tokens

variable (h : site.settings.IsUsual)
include h

/-- Tokens are handed out on an order in the session alone. -/
theorem isTokenless_of_settled (hk : session.IsKeyed) (hn : session.get? Session.orderKey = none)
    {address : Address} {after : Browser} (hs : site.Settled address b session after)
    (hb : b.IsTokenless) : after.IsTokenless := by
  rcases hs with rfl | ⟨written, orders, horders, hreceived⟩
  · exact hb
  rw [settle, order?_of_isUsual h, hn] at horders
  dsimp only at horders
  rw [save_of_isUsual h address hk] at horders
  obtain rfl := Except.ok.inj horders
  split at hreceived
  next =>
    rw [Browser.receive_cons (by rw [Browser.key_leave]; simp [Cookie.sessionKey])] at hreceived
    obtain rfl := Except.ok.inj hreceived
    intro host
    have hne : Cookie.tokenKey host ≠ (Cookie.Order.leave address.cookieHost session).key := by
      rw [Browser.key_leave]
      simp [Cookie.sessionKey, Cookie.tokenKey]
    have hsame := Browser.get?_after_of_ne (b := b) hne
    exact hsame.trans (hb host)
  next =>
    obtain rfl := Except.ok.inj hreceived
    exact hb

theorem isTokenless_of_respond (ho : b.IsOwn site) (hb : b.IsTokenless)
    (ha : request.address.IsRooted) : (site.respond request b).browser.IsTokenless := by
  have hstanding := standing_of_isUsual h request.address
  rw [respond_eq_conclude h ho.usual ha hstanding]
  have hplain := isPlain_replyTo h request (ho.plain request.address.cookieHost)
    (encodedName request.address.knownHost)
  rcases settled_conclude request b (site.replyTo request b
    (encodedName request.address.knownHost)) with hset | hset
  · exact isTokenless_of_settled h hplain.keyed hplain.unordered hset hb
  · have herased := hplain.erase Session.orderKey
    exact isTokenless_of_settled h herased.keyed herased.unordered hset hb

theorem isTokenless_browsers (sent : List Sending) (client : String) :
    ((site.browsers sent).getD client .new).IsTokenless :=
  browsers_induction_of_isOwn h (fun _ => rfl)
    (fun ha ho hb => isTokenless_of_respond h ho hb ha) sent client

end Tokens

/-- It can be told who the visitor is: the session names one, or else the header can be read, and a
pair in it can be compared. -/
def Tells (site : Site) (request : Request) (session : Session) : Prop :=
  (∃ name, session.Names name) ∨
    ¬ request.IsGarbled ∧
      ((∃ u p, request.Bears u p) → ∃ u p, site.gate.configured = ⟨.text u, .text p⟩)

theorem identify_ok_iff (h : site.settings.IsUsual) :
    (∃ who, (site.identify request session).result = .ok who) ↔ site.Tells request session := by
  by_cases hnames : ∃ name, session.Names name
  · obtain ⟨name, hname⟩ := hnames
    have hknown : session.username? = some name := Session.username?_eq_some_iff.mpr hname
    refine iff_of_true ⟨some name, ?_⟩ (Or.inl ⟨name, hname⟩)
    rw [identify, hknown]
    rfl
  have hunknown := Session.username?_eq_none_of_not_names hnames
  cases hpair : request.basicPair? with
  | error fault =>
    have hgarbled : request.IsGarbled := (Request.basicPair?_eq_error_iff.mp hpair).2
    simp [identify, hunknown, hpair, Tells, hnames, hgarbled]
  | ok pair? =>
    have hread := Request.not_isGarbled hpair
    cases pair? with
    | none =>
      have hnone : ∀ u p, ¬ request.Bears u p := by
        intro u p hbears
        rw [← Request.basicPair?_eq_some_iff, hpair] at hbears
        simp at hbears
      simp [identify, hunknown, hpair, Tells, hread, hnone]
    | some pair =>
      obtain ⟨u, p⟩ := pair
      have hbears : ∃ u p, request.Bears u p := ⟨u, p, Request.basicPair?_eq_some_iff.mp hpair⟩
      have hresult : (site.identify request session).result =
          (site.gate.configured.accepts ⟨.text u, .text p⟩).map
            fun valid => if valid then some u else none := by
        rw [identify, hunknown, hpair]
        simp only [permit_of_isUsual h, Reply.result_map, Gate.result_vouch]
      rw [hresult, Tells, ← Credential.exists_accepts_iff (u := u) (p := p)]
      cases site.gate.configured.accepts ⟨.text u, .text p⟩ with
      | error fault => simp [hnames, hbears, Except.map]
      | ok accepted => simp [hread, Except.map]

/-- What a login has to come with to be answered, by the verdict that it comes to. -/
def Handles (site : Site) (request : Request) (session : Session) : Verdict → Prop
  | .malformed _ => site.Tells request session
  | .compared (.odd _) => False
  | .compared (.different _ _) => site.Tells request session
  | .compared (.same _) =>
    ∃ sent, Leads (Target.resolve (Value.ofText? request.target?) site.gate.landing) sent

section Answers

variable (h : site.settings.IsUsual)

include h in
/-- The login page is shown where it can be told who the visitor is. -/
theorem showLoginPage_sent_iff (hp : session.IsPlain)
    (hvisitor : site.visitor visit session = site.identify visit.request session) (status : Nat)
    (view : FormView) :
    (∃ made sent, (site.showLoginPage visit session status view).result = .ok made ∧
      made.sealed = .ok sent) ↔ site.Tells visit.request session := by
  rw [← identify_ok_iff h, ← hvisitor]
  constructor
  · rintro ⟨made, sent, hmade, _⟩
    obtain ⟨who, hwho, _⟩ := Reply.result_andThen_eq_ok_iff.mp hmade
    exact ⟨who, hwho⟩
  · rintro ⟨who, hwho⟩
    have hplain : (site.visitor visit session).session.IsPlain :=
      Session.isPlain_of_changes
        (ReflTransGen.mono (fun _ _ => Session.Change.viewed) _ _ (through_visitor h).changes) hp
    obtain ⟨page, shown, hpage⟩ :=
      result_showPage hplain visit.request status (loginContent view)
    exact ⟨.page status page shown, .page status page shown,
      Reply.result_andThen_eq_ok_iff.mpr ⟨who, hwho, hpage⟩, rfl⟩

theorem redirect_of_afterLogin {location : Value} {made : Response}
    (hmade : (site.afterLogin visit (.admitted location) session).result = .ok made) :
    ∃ text, made = .redirect text := by
  unfold afterLogin at hmade
  split at hmade
  next => simp at hmade
  next hview => simp [Outcome.view?] at hview
  next => exact ⟨_, checked_eq_ok hmade⟩

theorem afterLogin_sent_iff (location : Value) :
    (∃ made sent, (site.afterLogin visit (.admitted location) session).result = .ok made ∧
      made.sealed = .ok sent) ↔ ∃ sent, Leads location sent := by
  constructor
  · rintro ⟨made, sent, hmade, hsealed⟩
    obtain ⟨text, rfl⟩ := redirect_of_afterLogin hmade
    obtain ⟨encoded, _, rfl⟩ := map_eq_ok_iff.mp hsealed
    exact ⟨encoded, (afterLogin_of_admitted location).mp ⟨_, hmade, hsealed⟩⟩
  · rintro ⟨sent, hleads⟩
    obtain ⟨made, hmade, hsealed⟩ := (afterLogin_of_admitted location).mpr hleads
    exact ⟨made, .redirect sent, hmade, hsealed⟩

variable (visit) (htaken : site.taken? visit.request = some payload)
  (hgives : site.gate.Gives payload verdict)
include h htaken hgives

/-- Whether something comes of a login, by its verdict, and what. -/
theorem result_submitLogin_cases (session : Session) :
    (∃ v, verdict = .compared (.odd v) ∧
      ∃ fault, (site.submitLogin visit session).result = .error fault) ∨
    (∃ view, (site.Handles visit.request session verdict ↔ site.Tells visit.request session) ∧
      (site.submitLogin visit session).result =
        (site.showLoginPage visit session verdict.status view).result) ∨
    ∃ u, verdict = .compared (.same u) ∧ (site.submitLogin visit session).result =
      (site.afterLogin visit
        (.admitted (Target.resolve (Value.ofText? visit.request.target?) site.gate.landing))
        (session.withRecord (.text u))).result := by
  rw [submitLogin_of_taken h htaken session]
  cases verdict with
  | malformed flaw =>
    rw [Gate.login_of_lacks hgives.2, Reply.andThen_of_ok rfl]
    exact Or.inr (Or.inl ⟨_, Iff.rfl, rfl⟩)
  | compared finding =>
    obtain ⟨pair, hholds, hfinds⟩ := hgives
    rw [Gate.login_of_holds hholds]
    cases finding with
    | odd v =>
      obtain ⟨fault, hfault, _⟩ := hfinds.exists_fault
      rw [hfault, Reply.andThen_of_error rfl]
      exact Or.inl ⟨v, rfl, fault, rfl⟩
    | different u p =>
      rw [hfinds.compareWith_of_different, Reply.andThen_of_ok rfl]
      exact Or.inr (Or.inl ⟨_, Iff.rfl, rfl⟩)
    | same u =>
      obtain ⟨p, hsame⟩ := hfinds.compareWith_of_same
      rw [hsame, Reply.andThen_of_ok rfl]
      exact Or.inr (Or.inr ⟨u, rfl, rfl⟩)

theorem submitLogin_sent_iff (hp : session.IsPlain)
    (hvisitor : site.visitor visit session = site.identify visit.request session) :
    (∃ made sent, (site.submitLogin visit session).result = .ok made ∧ made.sealed = .ok sent) ↔
      site.Handles visit.request session verdict := by
  rcases result_submitLogin_cases visit h htaken hgives session with
    ⟨v, rfl, fault, hresult⟩ | ⟨view, hhandles, hresult⟩ | ⟨u, rfl, hresult⟩
  · rw [hresult]
    simp [Handles]
  · rw [hresult, hhandles]
    exact showLoginPage_sent_iff h hp hvisitor _ _
  · rw [hresult]
    exact afterLogin_sent_iff _

theorem status_of_submitLogin {made : Response}
    (hmade : (site.submitLogin visit session).result = .ok made) :
    made.status = verdict.status := by
  rcases result_submitLogin_cases visit h htaken hgives session with
    ⟨v, rfl, fault, hresult⟩ | ⟨view, _, hresult⟩ | ⟨u, rfl, hresult⟩
  · rw [hresult] at hmade
    cases hmade
  · rw [hresult] at hmade
    exact status_of_showLoginPage hmade
  · rw [hresult] at hmade
    obtain ⟨text, rfl⟩ := redirect_of_afterLogin hmade
    rfl

end Answers

/-- How a login has to be answered: the visitor is sent on or told what is wrong, and whoever sends
the configured pair is sent on and has the record. -/
def HandlesLogin (site : Site) (request : Request) (b : Browser) : Prop :=
  let exchange := site.respond request b
  ∃ response, exchange.result = .ok response ∧
    (response.status = 302 ∨ response.status = 400 ∨ response.status = 401) ∧
    ∀ payload u p, site.taken? request = some payload →
      Submission.Holds payload ⟨.text u, .text p⟩ → site.gate.configured = ⟨.text u, .text p⟩ →
      response.status = 302 ∧
        (exchange.browser.sessionAt request.address.cookieHost).get? "dashboard_auth" =
          some (.ofFields [("authenticated", .bool true), ("username", .text u)])

/-- The site is asked by no name at all, or the form is neither too long nor too large and the body can
be read, and the login can be answered. -/
def CanHandleLogin (site : Site) (request : Request) (session : Session) : Prop :=
  (∃ denial, site.standing request.address = .ok (.error denial)) ∨
    (request.isForm = true → request.octets.length ≤ mostOctets) ∧
      request.hasLargeParts = false ∧ ∃ payload verdict, request.payload = .ok payload ∧
        site.gate.Gives payload verdict ∧ site.Handles request session verdict

theorem status_of_handles (h : site.Handles request session verdict) :
    verdict.status = 302 ∨ verdict.status = 400 ∨ verdict.status = 401 := by
  cases verdict with
  | malformed flaw => simp [Verdict.status]
  | compared finding =>
    cases finding with
    | odd v => cases h
    | different u p => simp [Verdict.status]
    | same u => simp [Verdict.status]

theorem taken?_eq_some_iff (h : site.settings.IsUsual)
    (he : site.endpoint? request = some .submitLogin) : site.taken? request = some payload ↔
      (request.isForm = true → request.octets.length ≤ mostOctets) ∧
        request.hasLargeParts = false ∧ request.payload = .ok payload := by
  have hfits : (request.isForm = true → request.octets.length ≤ mostOctets) ∧
      request.hasLargeParts = false ↔ (request.isForm &&
        decide (mostOctets < request.octets.length) || request.hasLargeParts) = false := by
    simp
  rw [← and_assoc, hfits, taken?, he, tooLong_of_isUsual h]
  cases request.isForm && decide (mostOctets < request.octets.length) ||
      request.hasLargeParts with
  | true => simp
  | false =>
    cases request.payload with
    | error fault => simp
    | ok payload => simp

/-- An answer that is not about the length is one to the payload. -/
theorem taken?_of_submitLogin (visit : Visit)
    (he : site.endpoint? visit.request = some .submitLogin)
    {made : Response} (hmade : (site.submitLogin visit session).result = .ok made)
    (hstatus : made.status ≠ 413) : ∃ payload, site.taken? visit.request = some payload := by
  unfold submitLogin at hmade
  dsimp only at hmade
  split at hmade
  next => cases hmade
  next => exact absurd (status_of_deny hmade) hstatus
  next => cases hmade
  next payload hfits hpayload => exact ⟨payload, by simp only [taken?, he, hfits, hpayload]⟩

/-- A request that names no host is told so, whatever it submits. -/
theorem handlesLogin_of_unnamed (h : site.settings.IsUsual) (ho : b.IsOwn site)
    (ha : request.address.IsRooted) {denial : Denial}
    (hs : site.standing request.address = .ok (.error denial)) : site.HandlesLogin request b := by
  have hname : encodedName request.address.knownHost = .error denial :=
    Except.ok.inj ((standing_of_isUsual h request.address).symm.trans hs)
  obtain rfl := eq_badName_of_encodedName hname
  have hmade : (site.replyTo request b (.error .badName)).result =
      .ok (.denied .badName !request.wantsHead) := deny_of_isUsual h (by simp) request
  have hnone : site.taken? request = none := taken?_eq_none (by simp [endpoint?, hs])
  refine ⟨_, respond_ok h ho.usual ha (ho.plain _) hs hmade rfl, Or.inr (Or.inl rfl), ?_⟩
  intro payload u p htaken
  rw [hnone] at htaken
  cases htaken

section Named

variable (h : site.settings.IsUsual) (ho : b.IsOwn site) (hb : b.IsTokenless)
  (ha : request.address.IsRooted) {mark : String} (hmark : request.mark = .ok mark) {name : String}
  (hs : site.standing request.address = .ok (.ok name))
  (hroute : Route.of (site.asked request) request.path = .endpoint .submitLogin)

include hs hroute in
theorem endpoint?_of_route : site.endpoint? request = some .submitLogin := by
  simp only [endpoint?, hs, hroute]

include hroute in
theorem replyTo_of_route : site.replyTo request b (.ok name) =
    site.submitLogin ⟨request, b.shownAt request.address⟩
      (b.sessionAt request.address.cookieHost) := by
  simp only [replyTo, answer, answerAs, hroute]

include h ho hb ha hmark in
theorem submitLogin_of_isOwn (htaken : site.taken? request = some payload)
    (hgives : site.gate.Gives payload verdict) :
    (∃ made sent, (site.submitLogin ⟨request, b.shownAt request.address⟩
        (b.sessionAt request.address.cookieHost)).result = .ok made ∧ made.sealed = .ok sent) ↔
      site.Handles request (b.sessionAt request.address.cookieHost) verdict := by
  have htoken := Browser.heeded?_of_tokenless (hb request.address.cookieHost)
  have hvisitor := visitor_of_unheeded h ho.usual ha htoken hmark
  exact submitLogin_sent_iff ⟨request, b.shownAt request.address⟩ h htaken hgives (ho.plain _)
    hvisitor

include h ho hb ha hmark hs hroute

theorem handles_of_handlesLogin (hhandles : site.HandlesLogin request b) :
    ∃ payload verdict, site.taken? request = some payload ∧ site.gate.Gives payload verdict ∧
      site.Handles request (b.sessionAt request.address.cookieHost) verdict := by
  obtain ⟨response, hsent, hstatus, _⟩ := hhandles
  have hne : response ≠ .failed := by
    rintro rfl
    simp [Response.status] at hstatus
  obtain ⟨made, hmade, hsealed⟩ :=
    (respond_eq_ok_iff h ho.usual ha (ho.plain _) hs hne).mp hsent
  rw [replyTo_of_route hroute] at hmade
  rw [Response.status_of_sealed hsealed] at hstatus
  obtain ⟨payload, htaken⟩ := taken?_of_submitLogin ⟨request, b.shownAt request.address⟩
    (endpoint?_of_route hs hroute) hmade (by omega)
  obtain ⟨verdict, hgives⟩ := site.gate.exists_verdict payload
  exact ⟨payload, verdict, htaken, hgives,
    (submitLogin_of_isOwn h ho hb ha hmark htaken hgives).mp ⟨made, response, hmade, hsealed⟩⟩

theorem handlesLogin_of_handles (htaken : site.taken? request = some payload)
    (hgives : site.gate.Gives payload verdict)
    (hhandles : site.Handles request (b.sessionAt request.address.cookieHost) verdict) :
    site.HandlesLogin request b := by
  obtain ⟨made, sent, hmade, hsealed⟩ :=
    (submitLogin_of_isOwn h ho hb ha hmark htaken hgives).mpr hhandles
  have hstatus : sent.status = verdict.status :=
    (Response.status_of_sealed hsealed).trans
      (status_of_submitLogin ⟨request, b.shownAt request.address⟩ h htaken hgives hmade)
  rw [← replyTo_of_route hroute] at hmade
  have hsent := respond_ok h ho.usual ha (ho.plain _) hs hmade hsealed
  refine ⟨sent, hsent, ?_, ?_⟩
  · rw [hstatus]
    exact status_of_handles hhandles
  · -- The configured pair comes to one verdict, with which the visitor is sent on.
    intro other u p hother hholds hconf
    obtain rfl := Option.some.inj (htaken.symm.trans hother)
    obtain rfl : verdict = .compared (.same u) := hgives.unique ⟨_, hholds, p, rfl, hconf⟩
    obtain ⟨v, q, hvq, hrecord⟩ := record_of_admits h ho ha hsent (Or.inl ⟨hroute, hstatus⟩)
    obtain ⟨hv, _⟩ := Credential.mk.inj (hconf.symm.trans hvq)
    rw [← Datum.text.inj hv] at hrecord
    exact ⟨hstatus, hrecord⟩

end Named

theorem handlesLogin_iff_of_isOwn (h : site.settings.IsUsual) (ho : b.IsOwn site)
    (hb : b.IsTokenless) (ha : request.address.IsRooted) {mark : String}
    (hmark : request.mark = .ok mark)
    (hroute : Route.of (site.asked request) request.path = .endpoint .submitLogin) :
    site.HandlesLogin request b ↔
      site.CanHandleLogin request (b.sessionAt request.address.cookieHost) := by
  have hstanding := standing_of_isUsual h request.address
  cases hname : encodedName request.address.knownHost with
  | error denial =>
    rw [hname] at hstanding
    exact iff_of_true (handlesLogin_of_unnamed h ho ha hstanding) (Or.inl ⟨denial, hstanding⟩)
  | ok name =>
    rw [hname] at hstanding
    have htaken : ∀ {payload : Datum}, site.taken? request = some payload ↔
        (request.isForm = true → request.octets.length ≤ mostOctets) ∧
          request.hasLargeParts = false ∧ request.payload = .ok payload :=
      taken?_eq_some_iff h (endpoint?_of_route hstanding hroute)
    constructor
    · intro hhandles
      obtain ⟨payload, verdict, hpayload, hgives, hverdict⟩ :=
        handles_of_handlesLogin h ho hb ha hmark hstanding hroute hhandles
      obtain ⟨hfits, hsmall, hread⟩ := htaken.mp hpayload
      exact Or.inr ⟨hfits, hsmall, payload, verdict, hread, hgives, hverdict⟩
    · rintro (⟨denial, hdenied⟩ | ⟨hfits, hsmall, payload, verdict, hread, hgives, hverdict⟩)
      · rw [hstanding] at hdenied
        cases hdenied
      · exact handlesLogin_of_handles h ho hb ha hmark hstanding hroute
          (htaken.mpr ⟨hfits, hsmall, hread⟩) hgives hverdict

/-- Whatever was sent before, a login is answered as it has to be just if it comes with what
`CanHandleLogin` asks for. -/
theorem handlesLogin_iff {s : Settings} (hu : s.IsUsual) (hs : s.site = .ok site)
    (past : List Sending) (client : String) {message : Message} {address : String}
    (hsent : message.sentTo s.base address = .ok request) {origin? : Option String}
    (horigin : request.origin = .ofText? origin?)
    (hroute : Route.of (site.asked request) request.path = .endpoint .submitLogin) :
    site.HandlesLogin request ((site.browsers past).getD client .new) ↔
      site.CanHandleLogin request (site.sessionOf past client request.address.cookieHost) := by
  obtain ⟨rfl, _⟩ := site_eq_ok hs
  obtain ⟨mark, hmark⟩ := Request.exists_mark horigin
  exact handlesLogin_iff_of_isOwn hu (isOwn_browsers hu past client)
    (isTokenless_browsers hu past client) (isRooted_of_sentTo hu hsent) hmark hroute

/-- A site that lets visitors in and has no place for them. -/
def nowhere : Site :=
  { forTests with
    gate := { forTests.gate with landing := .null }
    settings := { Settings.forTests with landing := some .null } }

/-- A site whose username is a number. -/
def numbered : Site :=
  { forTests with
    gate := { forTests.gate with configured := ⟨.int 5, .text "correct"⟩ }
    settings := { Settings.forTests with username := .int 5 } }

/-- The pair of the settings for tests, with a place to go to. -/
def asksPlace : Request := { formLogin "admin" "correct" with query := "redirect_to=%2Fx%20y" }

/-- A visitor who asks for a place gets there even so. -/
theorem handlesLogin_nowhere :
    nowhere.HandlesLogin asksPlace
      ((nowhere.browsers [⟨"visitor", "/", vouched⟩]).getD "visitor" .new) := by
  have hu : nowhere.settings.IsUsual := ⟨.forTests, Or.inl rfl, rfl⟩
  have hsent : asksPlace.sentTo nowhere.settings.base "/login" = .ok asksPlace :=
    sentTo_of_read hu read_login (by decide +kernel)
  have horigin : asksPlace.origin = .ofText? (some neighbour.origin) := rfl
  refine (handlesLogin_iff hu rfl _ _ hsent horigin (by decide +kernel)).mpr (Or.inr ⟨?_, rfl, ?_⟩)
  · intro _
    decide +kernel
  · have hpayload : asksPlace.payload = .ok (.ofFields [("session", .ofFields
      [("username", .text "admin"), ("password", .text "correct")])]) := rfl
    have hresolve : Target.resolve (Value.ofText? asksPlace.target?) .null = .text "/x y" := rfl
    have hleads : Leads (.text "/x y") "/x%20y" :=
      ⟨nofun, .redirect "/x y", rfl, ok_of_toOption (by decide +kernel)⟩
    rw [← hresolve] at hleads
    exact ⟨_, .compared (.same "admin"), hpayload,
      ⟨⟨.text "admin", .text "correct"⟩, ⟨_, _, rfl, rfl, rfl, rfl, rfl, rfl⟩, "correct", rfl, rfl⟩,
      "/x%20y", hleads⟩

/-- A login in JSON with half of a surrogate pair for a password. -/
def raggedLogin : Request :=
  postLogin neighbour "application/json"
    "\x7b\"session\": \x7b\"username\": \"admin\", \"password\": \"\\ud800\"\x7d\x7d"

/-- Without one, the right pair makes the exchange fail, and so does any pair where none can be
compared with, and a password that cannot be encoded wherever texts are compared. -/
theorem not_handlesLogin :
    ({ Settings.forTests with landing := some .null }.site = .ok nowhere ∧
      ¬ nowhere.HandlesLogin (formLogin "admin" "correct") .new) ∧
    ({ Settings.forTests with username := .int 5 }.site = .ok numbered ∧
      ¬ numbered.HandlesLogin (formLogin "admin" "correct") .new) ∧
    Settings.forTests.site = .ok forTests ∧ ¬ forTests.HandlesLogin raggedLogin .new := by
  have hfails : ∀ (site : Site) (request : Request),
      (site.respond request .new).result.toOption = none → ¬ site.HandlesLogin request .new := by
    rintro site request hnone ⟨response, hsent, _⟩
    rw [hsent] at hnone
    cases hnone
  exact ⟨⟨rfl, hfails _ _ (by decide +kernel)⟩, ⟨rfl, hfails _ _ (by decide +kernel)⟩, rfl,
    hfails _ _ (by decide +kernel)⟩

end Site

end Gatehouse
