import Gatehouse.Proofs.Form
import Gatehouse.Proofs.Home
import Gatehouse.Proofs.Location.Sent
import Gatehouse.Proofs.Target

namespace Gatehouse

/-- Who sends messages, and with which program. -/
structure Caller where
  origin : String
  agent : String

namespace Caller

def ask (caller : Caller) (query : String) : Message where
  verb := "GET"
  query := query
  body := ""
  contentType := none
  authorization := none
  origin := .text caller.origin
  agent := caller.agent

def fill (caller : Caller) (target username password : String) : Message where
  verb := "POST"
  query := ""
  body := formBody target username password
  contentType := some (String.ofList Request.formType)
  authorization := none
  origin := .text caller.origin
  agent := caller.agent

end Caller

/-- The target that is read from the hidden field of a login form. -/
def Content.hiddenTarget? : Content → Option String
  | .login _ target _ => target.map fun t =>
    String.ofList (Markup.unescape (Segment.hole t).render)
  | .dashboard _ => none

theorem Content.hiddenTarget?_login (error : Option String) (target username : String) :
    (Content.login error (some target) username).hiddenTarget? = some target := by
  rw [hiddenTarget?, Option.map_some, Segment.render, Markup.unescape_escape, String.ofList_toList]

/-- What comes of the detour: the dashboard is asked for with a query, the location that the visitor
is sent to is asked for, and the form there is filled in and sent. -/
def Site.detour (site : Site) (b : Browser) (caller : Caller) (query username password : String) :
    Option Response := do
  let first := site.deliver b "/" (caller.ask query)
  let location ← first.result.toOption.bind Response.location?
  let parts := Url.Parts.split location.toList
  let second := site.deliver first.browser (String.ofList parts.path)
    (caller.ask (String.ofList parts.query))
  let page ← second.result.toOption.bind Response.page?
  let target ← page.content.hiddenTarget?
  (site.deliver second.browser (page.root ++ Endpoint.submitLogin.path)
    (caller.fill target username password)).result.toOption

/-- A location is that of the dashboard, with a query that has the same pairs as another. -/
def Location.BringsBack (location query : String) : Prop :=
  (Url.Parts.split location.toList).path = ['/'] ∧
    Query.read (Url.Parts.split location.toList).query = Query.read query.toList

instance (location query : String) : Decidable (Location.BringsBack location query) :=
  inferInstanceAs (Decidable (_ ∧ _))

/-- The place that is asked for with a query for the dashboard. -/
def Request.dashboardPlace (query : String) : List Char :=
  if query.isEmpty then ['/'] else '/' :: '?' :: query.toList

/-- What a login takes a query for: it is decoded twice. -/
def Target.reread (query : String) : List Char :=
  Percent.decodePlus (Percent.decodePlus query.toList)

namespace Target

theorem decode_dashboardPlace (query : String) : decode (Request.dashboardPlace query) =
    if query.isEmpty then ['/'] else '/' :: '?' :: reread query := by
  rw [decode_eq, Request.dashboardPlace]
  split
  next => rfl
  next =>
    simp only [Percent.decodePlus_cons_of_ne (show '/' ≠ '%' by decide) (by decide),
      Percent.decodePlus_cons_of_ne (show '?' ≠ '%' by decide) (by decide), reread]

/-- The place stays a place of this site unless decoding brings a control into it. -/
theorem isLocal_decode_dashboardPlace (query : String) :
    isLocal (decode (Request.dashboardPlace query)) = !(reread query).any isControl := by
  rw [decode_dashboardPlace]
  split
  next h =>
    obtain rfl := String.isEmpty_iff.mp h
    rfl
  next =>
    have hquestion : isControl '?' = false := by decide
    rw [isLocal, List.any_cons, hquestion, Bool.false_or]
    · simp
    · simp

theorem resolve_dashboardPlace (query : String) (landing : Value) :
    resolve (.text (String.ofList (Request.dashboardPlace query))) landing =
      if (reread query).any isControl then landing
      else .text (String.ofList (decode (Request.dashboardPlace query))) := by
  have hblank : (Request.dashboardPlace query).all isBlank = false := by
    have hslash : isBlank '/' = false := by decide
    rw [Request.dashboardPlace]
    split <;> simp [hslash]
  simp only [resolve, String.toList_ofList, hblank, isLocal_decode_dashboardPlace]
  cases (reread query).any isControl <;> rfl

end Target

namespace Location

variable {cs : List Char} {sent query : String}

theorem isNewline_of_isLocal (h : Target.isLocal cs) : cs.any isNewline = false := by
  obtain ⟨rest, rfl, _, _, hrest⟩ := Target.isLocal_iff.mp h
  rw [List.any_eq_false]
  intro c hc hn
  have hcontrol : Target.isControl c := by
    simp only [isNewline, Bool.or_eq_true, decide_eq_true_eq] at hn
    rcases hn with rfl | rfl <;> decide
  rcases List.mem_cons.mp hc with rfl | hc
  · exact absurd hn (by decide)
  · simp [hrest c hc] at hcontrol

theorem redirectTo_of_isLocal (h : Target.isLocal cs) :
    Site.redirectTo (.text (String.ofList cs)) = .ok (.redirect (String.ofList cs)) := by
  have hline : (String.ofList cs).toList.any isNewline = false := by
    rw [String.toList_ofList]
    exact isNewline_of_isLocal h
  simp only [Site.redirectTo, Value.toText, Response.checked, Response.location?, hline]
  rfl

theorem sealed_redirect (cs : List Char) : (Response.redirect (String.ofList cs)).sealed =
    (encode cs).map fun location => .redirect (String.ofList location) := by
  rw [Response.sealed, Response.sealText, String.toList_ofList]
  cases encode cs <;> rfl

theorem leads_text_iff {path sent : String} : Site.Leads (.text path) sent ↔
    path.toList.any isNewline = false ∧
      encode path.toList = .ok sent.toList := by
  have hredirect : Site.redirectTo (.text path) =
      if path.toList.any isNewline then .error .newlineInHeader
      else .ok (.redirect path) := rfl
  have hseal : (Response.redirect path).sealed =
      (encode path.toList).map fun location => .redirect (String.ofList location) := by
    have hsealed := sealed_redirect path.toList
    rwa [String.ofList_toList] at hsealed
  unfold Site.Leads
  rw [hredirect]
  cases hline : path.toList.any isNewline with
  | true => simp
  | false =>
    simp only [Bool.false_eq_true, if_false, Except.ok.injEq, exists_eq_left', hseal, true_and]
    rw [map_eq_ok_iff]
    constructor
    · rintro ⟨_, location, hlocation, hsent⟩
      obtain rfl := Response.redirect.inj hsent
      rw [hlocation, String.toList_ofList]
    · intro hlocation
      exact ⟨nofun, _, hlocation, by rw [String.ofList_toList]⟩

theorem leads_of_isLocal (h : Target.isLocal cs) :
    Site.Leads (.text (String.ofList cs)) sent ↔ encode cs = .ok sent.toList := by
  rw [leads_text_iff, String.toList_ofList, isNewline_of_isLocal h]
  simp

theorem split_decode_dashboardPlace (query : String)
    (h : Target.isLocal (Target.decode (Request.dashboardPlace query))) :
    (Url.Parts.split (Target.decode (Request.dashboardPlace query))).path = ['/'] ∧
      (Url.Parts.split (Target.decode (Request.dashboardPlace query))).query =
        (Text.cutAt '#' (Target.reread query)).1 := by
  rw [split_of_isLocal h, Target.decode_dashboardPlace]
  split
  next he =>
    obtain rfl := String.isEmpty_iff.mp he
    exact ⟨rfl, rfl⟩
  next =>
    rw [Text.cutAt_cons_of_ne (by decide), Text.cutAt_cons_of_ne (by decide),
      Text.cutAt_cons_of_ne (by decide)]
    simp [Text.cutAt]

/-- A place that stays one of this site brings back what stands in the decoded query before a
fragment. -/
theorem leads_bringsBack_iff (h : Target.isLocal (Target.decode (Request.dashboardPlace query))) :
    (∃ sent,
      Site.Leads (.text (String.ofList (Target.decode (Request.dashboardPlace query)))) sent ∧
        BringsBack sent query) ↔
      Query.read (Text.cutAt '#' (Target.reread query)).1 = Query.read query.toList := by
  have hbrings : ∀ {sent : String},
      encode (Target.decode (Request.dashboardPlace query)) = .ok sent.toList →
      (BringsBack sent query ↔
        Query.read (Text.cutAt '#' (Target.reread query)).1 = Query.read query.toList) := by
    intro sent he
    obtain ⟨hpath, hquery⟩ := split_decode_dashboardPlace query h
    have hslash : Percent.encode isKept ['/'] = ['/'] := by decide
    rw [BringsBack, split_of_encode h he, hpath, hquery, hslash,
      Query.read_encode (by decide) (by decide) (by decide) (by decide)]
    simp
  simp only [leads_of_isLocal h]
  constructor
  · rintro ⟨sent, he, hback⟩
    exact (hbrings he).mp hback
  · intro hread
    obtain ⟨location, hlocation, _⟩ := isOnSite_of_isLocal h
    have he : encode (Target.decode (Request.dashboardPlace query)) =
        .ok (String.ofList location).toList := by
      rw [hlocation, String.toList_ofList]
    exact ⟨_, he, (hbrings he).mpr hread⟩

end Location

namespace Site

/-- A usable target can be sent, so all that is asked for leads somewhere if the landing place does. -/
theorem exists_leads_of_resolve {landing : Value} {sent : String} (h : Leads landing sent)
    (asked : Value) : ∃ sent, Leads (Target.resolve asked landing) sent := by
  rcases Target.resolve_cases asked landing with hsame | ⟨path, hpath, hlocal⟩
  · exact ⟨sent, by rwa [hsame]⟩
  · obtain ⟨location, hlocation, _⟩ := Location.isOnSite_of_isLocal hlocal
    refine ⟨String.ofList location, ?_⟩
    rw [hpath, Location.leads_text_iff, String.toList_ofList]
    exact ⟨Location.isNewline_of_isLocal hlocal, hlocation⟩

variable {site : Site} {b : Browser}

/-- Who asks for the dashboard without being known is sent to the login page, with the query that
was asked for. -/
theorem loginDetour_of_home {request : Request} (ha : request.address = home "/") :
    loginDetour request =
      .ok (.redirect (String.ofList (Location.toLogin (Request.dashboardPlace request.query)))) := by
  have hlogin : request.address.root ++ Endpoint.loginForm.path = Endpoint.loginForm.path := by
    rw [ha]
    rfl
  have hnormal : request.normalPath = ['/'] := by
    rw [Request.normalPath, Request.path, ha]
    decide
  have hplace : request.place = Request.dashboardPlace request.query := by
    rw [Request.place, hnormal]
    rfl
  rw [loginDetour, hlogin, hplace]
  exact Location.redirectTo_of_isLocal (Location.isLocal_toLogin _)

theorem sealed_toLogin (place : List Char) :
    (Response.redirect (String.ofList (Location.toLogin place))).sealed =
      .ok (.redirect (String.ofList (Location.toLogin place))) := by
  rw [Location.sealed_redirect, Location.encode_toLogin]
  rfl

section Steps

variable (caller : Caller) (query : String)

def askDashboard : Request := { caller.ask query with address := home "/" }

def askLogin : Request := { caller.ask query with address := home "/login" }

def sendLogin (target username password : String) : Request :=
  { caller.fill target username password with address := home "/login" }

theorem deliver_askDashboard (h : site.settings.IsUsual) (b : Browser) :
    site.deliver b "/" (caller.ask query) = site.respond (askDashboard caller query) b :=
  deliver_eq_respond h read_root rfl b

theorem deliver_askLogin (h : site.settings.IsUsual) (b : Browser) :
    site.deliver b "/login" (caller.ask query) = site.respond (askLogin caller query) b :=
  deliver_eq_respond h read_login rfl b

theorem deliver_sendLogin (h : site.settings.IsUsual) (target username password : String)
    (b : Browser) :
    site.deliver b "/login" (caller.fill target username password) =
      site.respond (sendLogin caller target username password) b := by
  refine deliver_eq_respond h read_login ?_ b
  have hline : (String.ofList Request.formType).toList.any Location.isNewline = false := by decide
  simpa [Message.headerText, Caller.fill] using hline

theorem route_askDashboard (h : site.settings.IsUsual) :
    Route.of (site.asked (askDashboard caller query)) (askDashboard caller query).path =
      .endpoint .dashboard := by
  have hroute : Route.of ⟨.ofName "GET", false, true⟩ "/" = .endpoint .dashboard := by
    decide +kernel
  exact (route_of_home h rfl).trans hroute

theorem route_askLogin (h : site.settings.IsUsual) :
    Route.of (site.asked (askLogin caller query)) (askLogin caller query).path =
      .endpoint .loginForm := by
  have hroute : Route.of ⟨.ofName "GET", false, true⟩ "/login" = .endpoint .loginForm := by
    decide +kernel
  exact (route_of_home h rfl).trans hroute

theorem route_sendLogin (h : site.settings.IsUsual) (target username password : String) :
    Route.of (site.asked (sendLogin caller target username password))
      (sendLogin caller target username password).path = .endpoint .submitLogin :=
  (route_of_home h rfl).trans route_submission

theorem loginDetour_askDashboard : loginDetour (askDashboard caller query) =
    .ok (.redirect (String.ofList (Location.toLogin (Request.dashboardPlace query)))) :=
  loginDetour_of_home rfl

/-- The first step leads to the login page. -/
theorem respond_askDashboard (h : site.settings.IsUsual) (hb : b.IsStranger Address.ownHost) :
    (site.respond (askDashboard caller query) b).result =
      .ok (.redirect (String.ofList (Location.toLogin (Request.dashboardPlace query)))) := by
  have ha : (askDashboard caller query).address = home "/" := rfl
  refine (respond_stranger h hb ha (by simp)).mpr
    ⟨.redirect (String.ofList (Location.toLogin (Request.dashboardPlace query))), ?_, ?_⟩
  · simp only [replyTo, answer, answerAs, route_askDashboard caller query h]
    rw [dashboard_of_stranger h (isStranger_atHome hb ha) (isRooted_of_home ha) rfl rfl]
    exact loginDetour_askDashboard caller query
  · exact sealed_toLogin _

/-- The second step shows a form that remembers the place. -/
theorem respond_askLogin (h : site.settings.IsUsual) (hb : b.IsStranger Address.ownHost)
    {place : List Char} (hne : place ≠ []) : ∃ notices,
    (site.respond (askLogin caller (String.ofList (Location.targetQuery place))) b).result =
      .ok (.page 200 ⟨"", notices, .login none (some (String.ofList place)) ""⟩ true) := by
  have ha : (askLogin caller (String.ofList (Location.targetQuery place))).address =
    home "/login" := rfl
  have htarget : (askLogin caller (String.ofList (Location.targetQuery place))).queryTarget? =
      some (String.ofList place) := by
    rw [Request.queryTarget?, Request.queryPairs, askLogin, Caller.ask, String.toList_ofList]
    exact Location.first?_targetQuery place
  obtain ⟨notices, hpage⟩ := loginForm_of_stranger h (isStranger_atHome hb ha)
    (isRooted_of_home ha) rfl rfl htarget (by simpa using hne)
  refine ⟨notices, (respond_stranger h hb ha (by simp)).mpr
    ⟨.page 200 ⟨"", notices, .login none (some (String.ofList place)) ""⟩ true, ?_, rfl⟩⟩
  simp only [replyTo, answer, answerAs, route_askLogin caller _ h]
  exact hpage

/-- The third step leads to the target of the form if the pair is the configured one. -/
theorem respond_sendLogin (h : site.settings.IsUsual) (hb : b.IsStranger Address.ownHost)
    {target username password sent : String}
    (hconf : site.gate.configured = ⟨.text username, .text password⟩) :
    (site.respond (sendLogin caller target username password) b).result = .ok (.redirect sent) ↔
      (Utf8.encode (formBody target username password).toList).length ≤ mostOctets ∧
        Leads (Target.resolve (.text target) site.gate.landing) sent := by
  have ha : (sendLogin caller target username password).address = home "/login" := rfl
  have hform : (sendLogin caller target username password).SendsForm target username password :=
    ⟨rfl, rfl, rfl⟩
  rw [respond_stranger h hb ha (by simp)]
  simp only [replyTo, answer, answerAs, route_sendLogin caller h]
  exact submitLogin_of_fillsForm h hconf hform.fillsForm

/-- The detour leads to the target that the form remembers, if the form is not too long. -/
theorem detour_eq_redirect_iff (h : site.settings.IsUsual) (hb : b.IsStranger Address.ownHost)
    {username password sent : String}
    (hconf : site.gate.configured = ⟨.text username, .text password⟩) :
    site.detour b caller query username password = some (.redirect sent) ↔
      (Utf8.encode (formBody (String.ofList (Request.dashboardPlace query)) username
          password).toList).length ≤ mostOctets ∧
        Leads (Target.resolve (.text (String.ofList (Request.dashboardPlace query)))
          site.gate.landing) sent := by
  have hplace : Request.dashboardPlace query ≠ [] := by
    rw [Request.dashboardPlace]
    split <;> simp
  have hfirst := respond_askDashboard caller query h hb
  have hb1 := isStranger_step h (askDashboard caller query) hb rfl rfl
    (by rw [route_askDashboard caller query h]; simp)
  obtain ⟨notices, hsecond⟩ := respond_askLogin caller h hb1 hplace
  have hb2 := isStranger_step h
    (askLogin caller (String.ofList (Location.targetQuery (Request.dashboardPlace query)))) hb1
    rfl rfl (by rw [route_askLogin caller _ h]; simp)
  have hlogin : Endpoint.loginForm.path = "/login" := rfl
  have hroot : "" ++ Endpoint.submitLogin.path = "/login" := rfl
  have hparts := Location.split_toLogin (Request.dashboardPlace query)
  have hsome : ∀ {r : Except Fault Response}, r.toOption = some (.redirect sent) ↔
      r = .ok (.redirect sent) := ⟨ok_of_toOption, fun hr => by rw [hr]; rfl⟩
  rw [detour, deliver_askDashboard caller query h]
  simp only [hfirst, toOption_ok, Option.bind_some, Response.location?, String.toList_ofList,
    hparts, String.ofList_toList, Option.bind_eq_bind, hlogin, deliver_askLogin caller _ h, hsecond,
    Response.page?, Content.hiddenTarget?_login, hroot, deliver_sendLogin caller h, hsome]
  exact respond_sendLogin caller h hb2 hconf

/-- A query in which nothing is escaped comes back, but for one that a fragment or a control
ends. -/
theorem detour_of_plain (h : site.settings.IsUsual) (hb : b.IsStranger Address.ownHost)
    {username password : String} (hconf : site.gate.configured = ⟨.text username, .text password⟩)
    (hfits : (Utf8.encode (formBody (String.ofList (Request.dashboardPlace query)) username
      password).toList).length ≤ mostOctets)
    (hplain : ∀ c ∈ query.toList, c ≠ '%' ∧ c ≠ '+' ∧ c ≠ '#' ∧ Target.isControl c = false) :
    ∃ sent, site.detour b caller query username password = some (.redirect sent) ∧
      Location.BringsBack sent query := by
  have hreread : Target.reread query = query.toList := by
    have honce := Percent.decodePlus_eq_self fun c hc => ⟨(hplain c hc).1, (hplain c hc).2.1⟩
    rw [Target.reread, honce, honce]
  have hcontrol : (Target.reread query).any Target.isControl = false := by
    rw [hreread, List.any_eq_false]
    intro c hc
    simp [(hplain c hc).2.2.2]
  have hlocal : Target.isLocal (Target.decode (Request.dashboardPlace query)) := by
    rw [Target.isLocal_decode_dashboardPlace, hcontrol]
    rfl
  have hhash : '#' ∉ query.toList := fun hm => (hplain '#' hm).2.2.1 rfl
  obtain ⟨sent, hleads, hback⟩ := (Location.leads_bringsBack_iff hlocal).mpr
    (by rw [hreread, Text.cutAt_of_not_mem hhash])
  refine ⟨sent, (detour_eq_redirect_iff caller query h hb hconf).mpr ⟨hfits, ?_⟩, hback⟩
  rw [Target.resolve_dashboardPlace, hcontrol]
  exact hleads

end Steps

/-- A stranger who logs in on the way to the dashboard gets back to the query that was asked for
just if the form is not too long, and the query has the same pairs once it was decoded twice and its
fragment cut off. Where that brings a control into it, the visitor gets to the landing place. -/
theorem detour_bringsBack_iff {s : Settings} (hu : s.IsUsual) (hs : s.site = .ok site)
    {username password : String} (hname : s.username = .text username)
    (hpass : s.password = .text password) (hb : b.IsStranger Address.ownHost) (caller : Caller)
    (query : String) :
    (∃ sent, site.detour b caller query username password = some (.redirect sent) ∧
        Location.BringsBack sent query) ↔
      (Utf8.encode (formBody (String.ofList (Request.dashboardPlace query)) username
          password).toList).length ≤ mostOctets ∧
        if (Target.reread query).any Target.isControl then
          ∃ sent, Leads (s.landing.getD (.text "/")) sent ∧ Location.BringsBack sent query
        else Query.read (Text.cutAt '#' (Target.reread query)).1 = Query.read query.toList := by
  obtain ⟨rfl, hconf, hlanding, _⟩ := site_eq_ok hs
  rw [hname, hpass] at hconf
  simp only [detour_eq_redirect_iff caller query hu hb hconf, and_assoc, exists_and_left,
    Target.resolve_dashboardPlace]
  refine and_congr_right fun _ => ?_
  rw [← hlanding]
  split
  next => rfl
  next hcontrol =>
    apply Location.leads_bringsBack_iff
    rw [Target.isLocal_decode_dashboardPlace]
    simpa using hcontrol

def neighbour : Caller := ⟨"127.0.0.1", "test"⟩

/-- A query in which nothing has to be decoded comes back. -/
theorem detour_bringsBack_pages :
    Browser.new.IsStranger Address.ownHost ∧
      ∃ sent, forTests.detour .new neighbour "view=all&page=2" "admin" "correct" =
        some (.redirect sent) ∧ Location.BringsBack sent "view=all&page=2" := by
  have hb := Browser.isStranger_new Address.ownHost
  refine ⟨hb, (detour_bringsBack_iff isUsual_forTests site_forTests rfl rfl hb neighbour _).mpr
    ⟨by decide +kernel, ?_⟩⟩
  rw [if_neg (by decide +kernel)]
  decide +kernel

/-- So an escaped mark in a value ends the value. -/
theorem detour_not_bringsBack_mark :
    forTests.detour .new neighbour "q=a%26b" "admin" "correct" = some (.redirect "/?q=a&b") ∧
      ¬ Location.BringsBack "/?q=a&b" "q=a%26b" := by
  constructor
  · decide +kernel
  · decide +kernel

end Site

end Gatehouse
