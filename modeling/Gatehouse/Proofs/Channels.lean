import Gatehouse.Proofs.Channel.Pair
import Gatehouse.Proofs.Guest

namespace Gatehouse

/-- A visitor without a valid record, with nothing else that could get in the way of a login: no
token that counts, no notices, and no order that cannot be carried out. -/
structure Browser.IsNewcomer (b : Browser) (site : Site) : Prop where
  usual : b.IsUsual
  unknown : (b.sessionAt Address.ownHost).username? = none
  quiet : (b.sessionAt Address.ownHost).get? Session.noticesKey = none
  tokenless : (b.sessionAt Address.ownHost).heedsToken = true →
    Cookie.get? (Cookie.tokenKey Address.ownHost) b.cookies = none
  orderly : ∀ address order, (b.sessionAt Address.ownHost).get? Session.orderKey = some order →
    ∃ orders, site.remember address (b.sessionAt Address.ownHost) order = .ok orders

theorem Browser.isNewcomer_new (site : Site) : Browser.new.IsNewcomer site where
  usual := isUsual_new
  unknown := rfl
  quiet := rfl
  tokenless := fun _ => rfl
  orderly := fun _ _ ho => by simp [sessionAt_new] at ho

namespace Browser.LeftWith

variable {b after : Browser} {host u : String} {written : Bool}

theorem get?_withRecord (hb : (b.sessionAt host).IsKeyed)
    (h : b.LeftWith host ((b.sessionAt host).withRecord (.text u)) true after) :
    (after.sessionAt host).get? recordKey = some (loginRecord (.text u)) := by
  have hrecord := Session.get?_withRecord (b.sessionAt host) (.text u)
  have hkeyed : ((b.sessionAt host).withRecord (.text u)).IsKeyed :=
    hb.insert _ (Value.isKeyed_loginRecord u)
  rcases h.here with ⟨hw, _⟩ | hkept
  · simp at hw
  · rw [hkept, Session.get?_kept_erase hkeyed (by decide), hrecord]
    intro v hv
    obtain rfl := Option.some.inj (hrecord.symm.trans hv)
    exact Value.stored_loginRecord u

/-- A session that was left as it was, or written, comes back under every key but that of the
order. -/
theorem alike {session : Session} (hs : session.IsKeyed)
    (hsame : written = false → session = b.sessionAt host)
    (h : b.LeftWith host session written after) {name : String}
    (hname : (session.erase Session.orderKey).get? name = session.get? name) :
    Option.Rel Value.Alike (session.get? name) ((after.sessionAt host).get? name) := by
  rcases h.here with ⟨hw, _, rfl⟩ | hkept
  · rw [hsame hw]
    exact Value.alike_refl _
  · have halike := (hs.erase Session.orderKey).alike_kept name
    rwa [hname, ← hkept] at halike

end Browser.LeftWith

namespace Site

variable {site : Site} {request : Request} {b : Browser} {session : Session}
  {u p cu cp : String}

/-- A login that is posted with a body. -/
def postLogin (caller : Caller) (contentType body : String) : Request where
  verb := "POST"
  query := ""
  body := body
  contentType := some contentType
  authorization := none
  origin := .text caller.origin
  agent := caller.agent
  address := home "/login"

theorem route_postLogin (h : site.settings.IsUsual) (caller : Caller) (contentType body : String) :
    Route.of (site.asked (postLogin caller contentType body))
      (postLogin caller contentType body).path = .endpoint .submitLogin :=
  (route_of_home h rfl).trans route_submission

/-- The dashboard is asked for with a pair in the header. -/
def askVouched (caller : Caller) (username password : String) : Request :=
  { askDashboard caller "" with authorization := some (Authorization.basic username password) }

theorem basicPair?_askVouched (caller : Caller) (h : ':' ∉ u.toList) :
    (askVouched caller u p).basicPair? = .ok (some (u, p)) :=
  Authorization.basicPair?_basic h p

/-- A request is answered, with a status of its own if it carries the right pair. The right pair
leaves its record, and any other leaves the record as it was. -/
def Judges (site : Site) (request : Request) (b : Browser) (status : Nat) (right : Prop)
    (username : String) : Prop :=
  (∃ response, (site.respond request b).result = .ok response ∧
    (response.status = status ↔ right)) ∧
  (right → ((site.respond request b).browser.sessionAt Address.ownHost).get? recordKey =
    some (loginRecord (.text username))) ∧
  (¬ right → Option.Rel Value.Alike ((b.sessionAt Address.ownHost).get? recordKey)
    (((site.respond request b).browser.sessionAt Address.ownHost).get? recordKey))

/-- An order does not look at the record. -/
theorem remember_withRecord (address : Address) (username : Value) (order : Value) :
    site.remember address (session.withRecord username) order =
      site.remember address session order :=
  remember_congr (Session.get?_insert_of_ne (by decide) _ _)
    (Session.get?_insert_of_ne (by decide) _ _) address order

theorem heeded?_of_newcomer (hb : b.IsNewcomer site) : b.heeded? Address.ownHost = none := by
  unfold Browser.heeded?
  split
  next hheeds => rw [hb.tokenless hheeds, Option.map_none]
  next => rfl

theorem visitor_of_newcomer (h : site.settings.IsUsual) (hb : b.IsNewcomer site) {path : String}
    (ha : request.address = home path) {origin : String} (ho : request.origin = .text origin) :
    site.visitor ⟨request, b.shownAt request.address⟩ (b.sessionAt Address.ownHost) =
      site.identify request (b.sessionAt Address.ownHost) :=
  visitor_of_tokenless h hb.usual (heeded?_of_newcomer hb) ha ho

theorem showPage_of_quiet (hquiet : session.get? Session.noticesKey = none) (status : Nat)
    (content : Content) :
    showPage request session status content =
      .same (.ok (.page status ⟨request.address.root, [], content⟩ !request.wantsHead)) session := by
  rw [showPage, Session.takeNotices, hquiet]
  rfl

/-- A newcomer gets an answer that leaves the session alone, or puts a record there. -/
theorem respond_of_newcomer (h : site.settings.IsUsual) (hb : b.IsNewcomer site) {path : String}
    (ha : request.address = home path) {reply : Reply Response}
    (hreply : site.replyTo request b (.ok "localhost") = reply) {made sent : Response}
    (hmade : reply.result = .ok made) (hsealed : made.sealed = .ok sent)
    (hsession : reply.session = b.sessionAt Address.ownHost ∨
      reply.session = (b.sessionAt Address.ownHost).withRecord (.text u)) :
    (site.respond request b).result = .ok sent ∧
      b.LeftWith Address.ownHost reply.session reply.written (site.respond request b).browser := by
  subst hreply
  refine respond_home h hb.usual ha hmade hsealed fun order ho => ?_
  rcases hsession with hsame | hrecord
  · rw [hsame] at ho ⊢
    exact hb.orderly _ order ho
  · rw [hrecord, Session.withRecord, Session.get?_insert_of_ne (by decide)] at ho
    rw [hrecord, remember_withRecord]
    exact hb.orderly _ order ho

theorem judges_of_right (h : site.settings.IsUsual) (hb : b.IsNewcomer site) {path : String}
    (ha : request.address = home path) {made sent : Response} {log : List Event}
    (hreply : site.replyTo request b (.ok "localhost") =
      ⟨.ok made, (b.sessionAt Address.ownHost).withRecord (.text u), true, log⟩)
    (hsealed : made.sealed = .ok sent) {right : Prop} (hright : right) :
    site.Judges request b sent.status right u := by
  obtain ⟨hresult, hleft⟩ := respond_of_newcomer h hb ha hreply rfl hsealed (Or.inr rfl)
  exact ⟨⟨sent, hresult, by simp [hright]⟩,
    fun _ => hleft.get?_withRecord (hb.usual.keyed Address.ownHost),
    fun hwrong => absurd hright hwrong⟩

theorem judges_of_wrong (h : site.settings.IsUsual) (hb : b.IsNewcomer site) {path : String}
    (ha : request.address = home path) {made sent : Response} {log : List Event}
    (hreply : site.replyTo request b (.ok "localhost") =
      ⟨.ok made, b.sessionAt Address.ownHost, false, log⟩)
    (hsealed : made.sealed = .ok sent) {status : Nat} (hne : sent.status ≠ status) {right : Prop}
    (hwrong : ¬ right) : site.Judges request b status right u := by
  obtain ⟨hresult, hleft⟩ := respond_of_newcomer (u := u) h hb ha hreply rfl hsealed (Or.inl rfl)
  exact ⟨⟨sent, hresult, by simp [hwrong, hne]⟩, fun hright => absurd hright hwrong,
    fun _ => hleft.alike (hb.usual.keyed Address.ownHost) (fun _ => rfl)
      (Session.get?_erase_of_ne (by decide) _)⟩

theorem afterLogin_admitted {visit : Visit} {landing : Value} (hne : landing ≠ .null) :
    site.afterLogin visit (.admitted landing) session = .same (redirectTo landing) session := by
  unfold afterLogin
  split
  next hnull _ => exact absurd hnull hne
  next hview => simp [Outcome.view?] at hview
  next => rfl

/-- The right pair leads to the target, wherever the target is read from. -/
theorem Submits.submitLogin_of_configured (hu : site.settings.IsUsual)
    (hsub : site.Submits request (.text u) (.text p))
    (hconf : site.gate.configured = ⟨.text u, .text p⟩) {location : Value}
    (hlocation : Target.resolve (Value.ofText? request.target?) site.gate.landing = location)
    (hne : location ≠ .null) {made : Response} (hmade : redirectTo location = .ok made)
    (cookies : List Cookie) (session : Session) :
    site.submitLogin ⟨request, cookies⟩ session =
      ⟨.ok made, session.withRecord (.text u), true, [.login request.origin]⟩ := by
  obtain ⟨payload, hpayload, hread⟩ := hsub.reads (Value.ofText? request.target?)
  have hlogin : site.gate.login session payload (Value.ofText? request.target?) request.origin =
      ⟨.ok (.admitted location), session.withRecord (.text u), true, [.login request.origin]⟩ := by
    rw [Gate.login_of_configured hconf hread, hlocation]
  simp only [submitLogin, hsub.2.1, hpayload, hlogin]
  rw [permit_of_isUsual hu, Reply.andThen_of_ok rfl]
  simp only [afterLogin_admitted hne, hmade]
  rfl

/-- Nobody is known to the site who has no record and sends no header. -/
theorem visitor_of_unvouched (h : site.settings.IsUsual) (hb : b.IsNewcomer site) {path : String}
    (ha : request.address = home path) {origin : String} (ho : request.origin = .text origin)
    (hauth : request.authorization = none) :
    site.visitor ⟨request, b.shownAt request.address⟩ (b.sessionAt Address.ownHost) =
      .same (.ok none) (b.sessionAt Address.ownHost) := by
  rw [visitor_of_newcomer h hb ha ho, identify, hb.unknown, Request.basicPair?, hauth]

theorem turnDown_of_newcomer (h : site.settings.IsUsual) (hb : b.IsNewcomer site) {path : String}
    (ha : request.address = home path) {origin : String} (ho : request.origin = .text origin)
    (hauth : request.authorization = none) (target : Value) : ∃ page,
    site.turnDown ⟨request, b.shownAt request.address⟩ (b.sessionAt Address.ownHost) u p target =
      ⟨.ok (.page 401 page !request.wantsHead), b.sessionAt Address.ownHost, false,
        [.rejected request.origin]⟩ := by
  have hshown : ∀ view, site.showLoginPage ⟨request, b.shownAt request.address⟩
      (b.sessionAt Address.ownHost) 401 view =
        .same (.ok (.page 401 ⟨request.address.root, [], loginContent view⟩ !request.wantsHead))
          (b.sessionAt Address.ownHost) := by
    intro view
    rw [showLoginPage, Reply.andThen_of_ok (by rw [visitor_of_unvouched h hb ha ho hauth]; rfl),
      visitor_of_unvouched h hb ha ho hauth]
    simp only [Reply.session_same, showPage_of_quiet hb.quiet]
    rfl
  refine ⟨⟨request.address.root, [], loginContent (.returned u p target
    Refusal.wrongCredentials.notice)⟩, ?_⟩
  rw [turnDown]
  dsimp only
  rw [Reply.andThen_of_ok rfl]
  simp only [Refusal.status, hshown]
  rfl

/-- A login that is submitted by a body of either kind. -/
theorem judges_of_submits (hu : site.settings.IsUsual) (hb : b.IsNewcomer site)
    (hconf : site.gate.configured = ⟨.text cu, .text cp⟩)
    (hsub : site.Submits request (.text u) (.text p)) (ha : request.address = home "/login")
    {origin : String} (ho : request.origin = .text origin)
    (hauth : request.authorization = none) (htarget : request.target? = none) {sent : String}
    (hleads : Leads site.gate.landing sent) :
    site.Judges request b 302 (u = cu ∧ p = cp) u := by
  have hhost := cookieHost_of_home ha
  have hreply : site.replyTo request b (.ok "localhost") =
      site.submitLogin ⟨request, b.shownAt request.address⟩ (b.sessionAt Address.ownHost) := by
    simp only [replyTo, answer, answerAs, hsub.1, hhost]
  by_cases hright : u = cu ∧ p = cp
  · obtain ⟨rfl, rfl⟩ := hright
    obtain ⟨hne, made, hmade, hsealed⟩ := hleads
    have hlanding : Target.resolve (Value.ofText? request.target?) site.gate.landing =
        site.gate.landing := by
      rw [htarget]
      rfl
    have hsubmit := hsub.submitLogin_of_configured hu hconf hlanding hne hmade
      (b.shownAt request.address) (b.sessionAt Address.ownHost)
    exact judges_of_right hu hb ha (hreply.trans hsubmit) hsealed ⟨rfl, rfl⟩
  · obtain ⟨hsubmit, _⟩ := hsub.submitLogin_of_ne hconf hright (b.shownAt request.address)
      (b.sessionAt Address.ownHost)
    obtain ⟨page, hpage⟩ := turnDown_of_newcomer (u := u) (p := p) hu hb ha ho hauth
      (Value.ofText? request.target?)
    exact judges_of_wrong hu hb ha (hreply.trans (hsubmit.trans hpage)) rfl (by simp [Response.status])
      hright

theorem visitor_of_vouched (h : site.settings.IsUsual) (hb : b.IsNewcomer site) {path : String}
    (ha : request.address = home path) {origin : String} (ho : request.origin = .text origin)
    (hpair : request.basicPair? = .ok (some (u, p))) :
    site.visitor ⟨request, b.shownAt request.address⟩ (b.sessionAt Address.ownHost) =
      (site.gate.vouch (b.sessionAt Address.ownHost) ⟨.text u, .text p⟩).map
        fun valid => if valid then some u else none := by
  rw [visitor_of_newcomer h hb ha ho, identify, hb.unknown, hpair]
  simp only [permit_of_isUsual h]

theorem dashboard_of_known {visit : Visit} {name : String} {t : Session} {written : Bool}
    (hv : site.visitor visit session = ⟨.ok (some name), t, written, []⟩)
    (hquiet : t.get? Session.noticesKey = none) :
    site.dashboard visit session =
      ⟨.ok (.page 200 ⟨visit.request.address.root, [], .dashboard name⟩ !visit.request.wantsHead),
        t, written, []⟩ := by
  rw [dashboard, hv, Reply.andThen_of_ok rfl]
  simp only [showPage_of_quiet hquiet]
  simp [Reply.same]

theorem dashboard_of_unknown (h : site.settings.IsUsual) {visit : Visit}
    (hv : site.visitor visit session = .same (.ok none) session) :
    site.dashboard visit session = .same (loginDetour visit.request) session := by
  rw [dashboard, hv, Reply.andThen_of_ok rfl]
  simp [unguarded_of_isUsual h, Reply.same]

/-- The dashboard is asked for with a pair in the header. -/
theorem judges_of_askVouched (hu : site.settings.IsUsual) (hb : b.IsNewcomer site)
    (hconf : site.gate.configured = ⟨.text cu, .text cp⟩) (hcolon : ':' ∉ u.toList)
    (caller : Caller) : site.Judges (askVouched caller u p) b 200 (u = cu ∧ p = cp) u := by
  have ha : (askVouched caller u p).address = home "/" := rfl
  have hhost : (askVouched caller u p).address.cookieHost = Address.ownHost := cookieHost_home "/"
  have hroute : Route.of (site.asked (askVouched caller u p)) (askVouched caller u p).path =
      .endpoint .dashboard := route_askDashboard caller "" hu
  have hpair : (askVouched caller u p).basicPair? = .ok (some (u, p)) :=
    basicPair?_askVouched caller hcolon
  have hvisitor := visitor_of_vouched hu hb ha rfl hpair
  have hreply : site.replyTo (askVouched caller u p) b (.ok "localhost") =
      site.dashboard ⟨askVouched caller u p, b.shownAt (askVouched caller u p).address⟩
        (b.sessionAt Address.ownHost) := by
    simp only [replyTo, answer, answerAs, hroute, hhost]
  by_cases hright : u = cu ∧ p = cp
  · obtain ⟨rfl, rfl⟩ := hright
    have hquiet : ((b.sessionAt Address.ownHost).withRecord (.text u)).get? Session.noticesKey =
        none := by
      rw [Session.withRecord, Session.get?_insert_of_ne (by decide), hb.quiet]
    rw [Gate.vouch_of_configured hconf] at hvisitor
    exact judges_of_right hu hb ha (hreply.trans (dashboard_of_known hvisitor hquiet)) rfl
      ⟨rfl, rfl⟩
  · have hdetour : loginDetour (askVouched caller u p) =
        .ok (.redirect (String.ofList (Location.toLogin ['/']))) :=
      loginDetour_askDashboard caller ""
    -- Nobody is known, so the answer leads to the login form instead.
    rw [Gate.vouch_of_ne hconf hright] at hvisitor
    have hdashboard := dashboard_of_unknown hu hvisitor
    dsimp only at hdashboard
    rw [hdetour] at hdashboard
    exact judges_of_wrong hu hb ha (hreply.trans hdashboard) (sealed_toLogin _)
      (by simp [Response.status]) hright

/-- A pair is judged alike whether it is sent by the login form, as JSON or in the header of a
request for the dashboard; and no matter how the form or the JSON is written, the site answers both
in the same way. -/
theorem channels_agree {s : Settings} (hu : s.IsUsual) (hs : s.site = .ok site)
    (huser : s.username = .text cu) (hpass : s.password = .text cp) {sent : String}
    (hleads : Leads site.gate.landing sent) (hb : b.IsNewcomer site) (caller : Caller)
    {formType formBody jsonType jsonBody : String}
    (hform : (postLogin caller formType formBody).PostsForm u p)
    (hfits : (postLogin caller formType formBody).octets.length ≤ mostOctets)
    (hjson : (postLogin caller jsonType jsonBody).PostsJson u p) :
    site.respond (postLogin caller jsonType jsonBody) b =
        site.respond (postLogin caller formType formBody) b ∧
      site.Judges (postLogin caller formType formBody) b 302 (u = cu ∧ p = cp) u ∧
      site.Judges (postLogin caller jsonType jsonBody) b 302 (u = cu ∧ p = cp) u ∧
      (':' ∉ u.toList → site.Judges (askVouched caller u p) b 200 (u = cu ∧ p = cp) u) := by
  obtain ⟨rfl, hconf, _⟩ := site_eq_ok hs
  rw [huser, hpass] at hconf
  have hroute := route_postLogin hu caller
  have hsubform := submits_of_postsForm hu hform hfits (hroute _ _)
  have hsubjson := submits_of_postsJson hu hjson (hroute _ _)
  have hresembles : (postLogin caller formType formBody).Resembles
      (postLogin caller jsonType jsonBody) :=
    ⟨rfl, rfl, rfl, rfl, rfl, hjson.target?.trans hform.target?.symm⟩
  refine ⟨respond_eq_of_resembles hresembles hsubform.1
      (fun cookies session => hsubform.submitLogin_congr hsubjson hresembles cookies session) b,
    judges_of_submits hu hb hconf hsubform rfl rfl rfl hform.target? hleads,
    judges_of_submits hu hb hconf hsubjson rfl rfl rfl hjson.target? hleads,
    fun hcolon => judges_of_askVouched hu hb hconf hcolon caller⟩

/-- A login form and a body in JSON with a pair, as they are usually written. -/
def formLogin (username password : String) : Request :=
  postLogin neighbour (String.ofList Request.formType) (loginBody username password)

def jsonLogin (username password : String) : Request :=
  postLogin neighbour "application/json"
    (String.ofList (Json.write (Request.loginObject username password)))

theorem postsForm_formLogin (username password : String) :
    (formLogin username password).PostsForm username password := by
  have hform : (formLogin username password).isForm = true := Request.isForm_of_contentType rfl
  exact Request.postsForm_of_loginBody rfl hform rfl

theorem postsJson_jsonLogin (username password : String) :
    (jsonLogin username password).PostsJson username password := by
  have htype : (jsonLogin username password).contentType = some "application/json" := rfl
  have hjson : (jsonLogin username password).isJson = true := by
    rw [Request.isJson, Request.mediaType, Request.plainType, htype]
    decide +kernel
  exact Request.postsJson_of_write rfl hjson rfl

theorem leads_forTests : Leads forTests.gate.landing "/" :=
  ⟨nofun, .redirect "/", rfl, ok_of_toOption (by decide +kernel)⟩

/-- The pair of the settings for tests is right whichever way it comes. -/
theorem channels_agree_forTests :
    forTests.respond (jsonLogin "admin" "correct") .new =
        forTests.respond (formLogin "admin" "correct") .new ∧
      (∃ response, (forTests.respond (formLogin "admin" "correct") .new).result = .ok response ∧
        response.status = 302) ∧
      ∃ response, (forTests.respond (askVouched neighbour "admin" "correct") .new).result =
        .ok response ∧ response.status = 200 := by
  obtain ⟨hsame, hform, _, hheader⟩ := channels_agree isUsual_forTests site_forTests rfl rfl
    leads_forTests (Browser.isNewcomer_new forTests) neighbour
    (postsForm_formLogin "admin" "correct") (by decide +kernel)
    (postsJson_jsonLogin "admin" "correct")
  obtain ⟨⟨response, hresult, hstatus⟩, _⟩ := hform
  obtain ⟨⟨shown, hshown, hshownstatus⟩, _⟩ := hheader (by decide)
  exact ⟨hsame, ⟨response, hresult, hstatus.mpr ⟨rfl, rfl⟩⟩, shown, hshown,
    hshownstatus.mpr ⟨rfl, rfl⟩⟩

-- What may get in the way of a right pair: a form that is too long, a landing place that cannot be
-- sent, an order in the session that cannot be carried out, and a token.

theorem not_judges_of_unknown {status : Nat} {right : Prop} (hright : right)
    (hnone : ((site.respond request b).browser.sessionAt Address.ownHost).username? = none) :
    ¬ site.Judges request b status right u := by
  rintro ⟨_, hrecord, _⟩
  have hname := Session.username?_of_loginRecord (hrecord hright)
  rw [hnone] at hname
  exact absurd hname (by simp)

/-- A form that is too long is turned away unread. -/
theorem respond_of_tooLarge (hu : site.settings.IsUsual) (hb : b.IsUsual) {path : String}
    (ha : request.address = home path) (hhead : request.wantsHead = false)
    (hroute : Route.of (site.asked request) request.path = .endpoint .submitLogin)
    (hlong : site.tooLong request = .ok true)
    (horderly : ∀ order, (b.sessionAt Address.ownHost).get? Session.orderKey = some order →
      ∃ orders, site.remember request.address (b.sessionAt Address.ownHost) order = .ok orders) :
    (site.respond request b).result = .ok (.denied .tooLarge true) := by
  have hhost := cookieHost_of_home ha
  have hdeny : site.deny request .tooLarge = .ok (.denied .tooLarge !request.wantsHead) :=
    deny_of_isUsual hu (by simp) request
  have hreply : site.replyTo request b (.ok "localhost") =
      .same (.ok (.denied .tooLarge true)) (b.sessionAt Address.ownHost) := by
    simp only [replyTo, answer, answerAs, hroute, hhost, submitLogin, hlong, hdeny, hhead,
      Bool.not_false]
  have hsealed : (Response.denied .tooLarge true).sealed = .ok (.denied .tooLarge true) := rfl
  refine (respond_home hu hb ha (by rw [hreply]; rfl) hsealed fun order horder => ?_).1
  rw [hreply] at horder ⊢
  exact horderly order horder

theorem respond_of_tooLong (hu : site.settings.IsUsual) (hb : b.IsNewcomer site)
    (hlong : mostOctets ≤ p.toList.length) :
    (site.respond (formLogin u p) b).result = .ok (.denied .tooLarge true) := by
  have hroute := route_postLogin hu neighbour (String.ofList Request.formType) (loginBody u p)
  have hform := postsForm_formLogin u p
  have hbody : (formLogin u p).body = loginBody u p := rfl
  have hoctets := Request.length_lt_octets hbody
  have hmore : mostOctets < (formLogin u p).octets.length := by omega
  refine respond_of_tooLarge hu hb.usual rfl rfl hroute ?_ fun order horder => hb.orderly _ order horder
  rw [tooLong_of_isForm hu hform.isForm, decide_eq_true hmore]

/-- A password with which a form is too long. -/
def longPassword : String := String.ofList (List.replicate mostOctets 'a')

theorem length_longPassword : longPassword.toList.length = mostOctets := by
  rw [longPassword, String.toList_ofList, List.length_replicate]

theorem longPassword_ne : longPassword ≠ "" := by
  intro he
  have hlength := length_longPassword
  rw [he] at hlength
  simp [mostOctets] at hlength

theorem not_judges_of_tooLong (hu : site.settings.IsUsual) (hb : b.IsNewcomer site)
    (hlong : mostOctets ≤ p.toList.length) :
    ¬ site.Judges (formLogin u p) b 302 True u := by
  rintro ⟨⟨response, hresult, hstatus⟩, _⟩
  obtain rfl := Except.ok.inj ((respond_of_tooLong hu hb hlong).symm.trans hresult)
  exact absurd (hstatus.mpr trivial) (by simp [Response.status, Denial.status])

theorem isUsual_withPair (username password : String) :
    (forTests.withPair username password).settings.IsUsual :=
  ⟨.forTests, Or.inl rfl, rfl⟩

theorem site_of_withPair (hu : u ≠ "") (hp : p ≠ "") :
    (Settings.forTests.withPair u p).site = .ok (forTests.withPair u p) := by
  have htruthy : ∀ s : String, s ≠ "" → (Datum.text s).truthy = true :=
    fun s hs => by simpa [Datum.truthy] using hs
  have hpair : ((Settings.forTests.withPair u p).username.truthy &&
      (Settings.forTests.withPair u p).password.truthy) = true := by
    simp only [Settings.withPair, htruthy u hu, htruthy p hp, Bool.and_self]
  rw [Settings.site, Settings.gate, if_pos hpair]
  rfl

/-- A landing place that would end a line in a header. -/
def brokenLanding : Site :=
  { forTests with
    gate := { forTests.gate with landing := .text "/\n" }
    settings := { Settings.forTests with landing := some (.text "/\n") } }

/-- A visitor whose session holds an order with a time that is none. -/
def mistimed : Browser :=
  ⟨[⟨Cookie.sessionKey Address.ownHost, false, .session (.ofValue (.ofFields
    [(Session.orderKey, .text Session.orderToSet), (Session.userKey, .text "1"),
     (Session.lifetimeKey, .text "x")]))⟩]⟩

/-- A visitor with a token. -/
def tokenHolder : Browser := ⟨[⟨Cookie.tokenKey Address.ownHost, false, .token "1"⟩]⟩

/-- So there are visitors without a record who are not let in by the right pair. -/
theorem channels_differ :
    (∃ site, (Settings.forTests.withPair "admin" longPassword).site = .ok site ∧
      ¬ site.Judges (formLogin "admin" longPassword) .new 302 True "admin") ∧
    ({ Settings.forTests with landing := some (.text "/\n") }.site = .ok brokenLanding ∧
      ¬ brokenLanding.Judges (formLogin "admin" "correct") .new 302 True "admin") ∧
    ((mistimed.sessionAt Address.ownHost).username? = none ∧
      ¬ forTests.Judges (formLogin "admin" "correct") mistimed 302 True "admin") ∧
    ((tokenHolder.sessionAt Address.ownHost).username? = none ∧
      ¬ forTests.Judges (askVouched neighbour "admin" "correct") tokenHolder 200 True "admin") := by
  refine ⟨⟨forTests.withPair "admin" longPassword,
    site_of_withPair (by decide) longPassword_ne, ?_⟩, ⟨rfl, ?_⟩, ⟨by decide +kernel, ?_⟩,
    by decide +kernel, ?_⟩
  · exact not_judges_of_tooLong (isUsual_withPair _ _) (Browser.isNewcomer_new _)
      (Nat.le_of_eq length_longPassword.symm)
  · exact not_judges_of_unknown trivial (by decide +kernel)
  · exact not_judges_of_unknown trivial (by decide +kernel)
  · exact not_judges_of_unknown trivial (by decide +kernel)

end Site

end Gatehouse
