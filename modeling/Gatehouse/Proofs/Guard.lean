import Gatehouse.Proofs.Channels

namespace Gatehouse

/-- The record in the session is a map that has true itself for its mark, and a text for a name. -/
def Session.Names (s : Session) (name : String) : Prop :=
  ∃ entries, s.get? "dashboard_auth" = some (.map entries) ∧
    Value.lookupText "authenticated" entries = some (.bool true) ∧
    Value.lookupText "username" entries = some (.text name)

theorem Session.username?_eq_none_of_not_names {s : Session} (h : ¬ ∃ name, s.Names name) :
    s.username? = none :=
  Option.eq_none_iff_forall_ne_some.mpr fun name hname =>
    h ⟨name, username?_eq_some_iff.mp hname⟩

namespace Request

/-- The authorization header bears a pair. -/
def Bears (r : Request) (u p : String) : Prop :=
  ∃ header, r.authorization = some header ∧ Authorization.Bears header u p

def IsGarbled (r : Request) : Prop :=
  ∃ header, r.authorization = some header ∧ Authorization.IsGarbled header

/-- The dashboard is asked for at home, with any query, header and body. -/
structure AsksDashboard (r : Request) : Prop where
  verb : r.verb = "GET"
  address : r.address = Site.home "/"
  origin : ∃ origin, r.origin = .text origin

variable {r : Request} {u p : String}

theorem basicPair?_eq_some_iff : r.basicPair? = .ok (some (u, p)) ↔ r.Bears u p := by
  unfold basicPair? Bears
  cases r.authorization with
  | none => simp
  | some header => simp [Authorization.basicPair?_eq_some_iff]

theorem basicPair?_eq_error_iff {fault : Fault} :
    r.basicPair? = .error fault ↔ fault = .notAscii ∧ r.IsGarbled := by
  unfold basicPair? IsGarbled
  cases r.authorization with
  | none => simp
  | some header => simp [Authorization.basicPair?_eq_error_iff]

theorem not_isGarbled {pair? : Option (String × String)} (h : r.basicPair? = .ok pair?) :
    ¬ r.IsGarbled := by
  intro hgarbled
  have hfault := basicPair?_eq_error_iff.mpr ⟨rfl, hgarbled⟩
  rw [h] at hfault
  cases hfault

end Request

/-- A visitor for whom nothing waits in the session, neither notices nor an order, and who has no
token. -/
structure Browser.IsBare (b : Browser) : Prop where
  usual : b.IsUsual
  quiet : (b.sessionAt Address.ownHost).get? Session.noticesKey = none
  unordered : (b.sessionAt Address.ownHost).get? Session.orderKey = none
  tokenless : Cookie.get? (Cookie.tokenKey Address.ownHost) b.cookies = none

theorem Browser.isBare_new : Browser.new.IsBare := ⟨isUsual_new, rfl, rfl, rfl⟩

namespace Site

/-- What is answered to a request for the dashboard, and what is left of the session: a record names
who is shown it, or else the header bears the configured pair; all others are sent to the login
page, with the place they asked for. -/
def Guards (site : Site) (request : Request) (b : Browser) (u p : String) : Prop :=
  let before := b.sessionAt Address.ownHost
  let exchange := site.respond request b
  let after := exchange.browser.sessionAt Address.ownHost
  (∃ response, exchange.result = .ok response ∧
    (response.status = 200 ↔ (∃ name, before.Names name) ∨ request.Bears u p)) ∧
  (∀ name, before.Names name →
    exchange.result = .ok (.page 200 ⟨"", [], .dashboard name⟩ true) ∧
    ∀ key, Option.Rel Value.Alike (before.get? key) (after.get? key)) ∧
  ((¬ ∃ name, before.Names name) → request.Bears u p →
    exchange.result = .ok (.page 200 ⟨"", [], .dashboard u⟩ true) ∧
    after.get? "dashboard_auth" =
      some (.ofFields [("authenticated", .bool true), ("username", .text u)]) ∧
    ∀ key ≠ "dashboard_auth", Option.Rel Value.Alike (before.get? key) (after.get? key)) ∧
  ((¬ ∃ name, before.Names name) → ¬ request.Bears u p →
    (∃ location, exchange.result = .ok (.redirect location) ∧
      (Url.Parts.split location.toList).path = "/login".toList ∧
      Query.first? "redirect_to" (Query.read (Url.Parts.split location.toList).query) =
        some (String.ofList (Request.dashboardPlace request.query))) ∧
    ∀ key, Option.Rel Value.Alike (before.get? key) (after.get? key))

variable {site : Site} {request : Request} {b : Browser} {session : Session} {name u p : String}

theorem replyTo_of_asksDashboard (h : site.settings.IsUsual) (hr : request.AsksDashboard)
    (b : Browser) : site.replyTo request b (.ok "localhost") =
      site.dashboard ⟨request, b.shownAt request.address⟩ (b.sessionAt Address.ownHost) := by
  have hhome : Route.of ⟨.ofName "GET", false, true⟩ "/" = .endpoint .dashboard := by
    decide +kernel
  have hmethod : request.method = .ofName "GET" := congrArg Method.ofName hr.verb
  have hroute : Route.of (site.asked request) request.path = .endpoint .dashboard := by
    rw [route_of_home h hr.address, hmethod, hhome]
  have hhost := cookieHost_of_home hr.address
  simp only [replyTo, answer, answerAs, hroute, hhost]

theorem visitor_of_bare (h : site.settings.IsUsual) (hb : b.IsBare) (hr : request.AsksDashboard) :
    site.visitor ⟨request, b.shownAt request.address⟩ (b.sessionAt Address.ownHost) =
      site.identify request (b.sessionAt Address.ownHost) := by
  obtain ⟨origin, horigin⟩ := hr.origin
  exact visitor_of_tokenless h hb.usual (Browser.heeded?_of_tokenless hb.tokenless) hr.address horigin

/-- Nothing that waits is in the way of an answer. -/
theorem respond_of_bare (h : site.settings.IsUsual) (hb : b.IsBare) (hr : request.AsksDashboard)
    {made sent : Response} {written : Bool} {log : List Event}
    (hreply : site.dashboard ⟨request, b.shownAt request.address⟩ (b.sessionAt Address.ownHost) =
      ⟨.ok made, session, written, log⟩)
    (hsealed : made.sealed = .ok sent) (horder : session.get? Session.orderKey = none) :
    (site.respond request b).result = .ok sent ∧
      b.LeftWith Address.ownHost session written (site.respond request b).browser := by
  have hwhole := (replyTo_of_asksDashboard h hr b).trans hreply
  have hmade : (site.replyTo request b (.ok "localhost")).result = .ok made := by rw [hwhole]
  have hanswer := respond_home h hb.usual hr.address hmade hsealed fun order ho => by
    rw [hwhole, horder] at ho
    simp at ho
  rwa [hwhole] at hanswer

theorem page_of_known (hr : request.AsksDashboard) (name : String) :
    Response.page 200 ⟨request.address.root, [], .dashboard name⟩ (!request.wantsHead) =
      .page 200 ⟨"", [], .dashboard name⟩ true := by
  have hhead : request.wantsHead = false := by
    rw [Request.wantsHead, hr.verb]
    rfl
  rw [hr.address, hhead]
  rfl

/-- A reply that leaves the session alone is sent, and all that is in the session comes back. -/
theorem respond_of_same (h : site.settings.IsUsual) (hb : b.IsBare) (hr : request.AsksDashboard)
    {made sent : Response} {log : List Event}
    (hreply : site.dashboard ⟨request, b.shownAt request.address⟩ (b.sessionAt Address.ownHost) =
      ⟨.ok made, b.sessionAt Address.ownHost, false, log⟩)
    (hsealed : made.sealed = .ok sent) :
    (site.respond request b).result = .ok sent ∧
      ∀ key, Option.Rel Value.Alike ((b.sessionAt Address.ownHost).get? key)
        (((site.respond request b).browser.sessionAt Address.ownHost).get? key) := by
  obtain ⟨hresult, hleft⟩ := respond_of_bare h hb hr hreply hsealed hb.unordered
  refine ⟨hresult, fun key => hleft.alike (hb.usual.keyed _) (fun _ => rfl) ?_⟩
  rw [Session.erase_of_get?_eq_none hb.unordered]

theorem respond_of_named (h : site.settings.IsUsual) (hb : b.IsBare) (hr : request.AsksDashboard)
    (hname : (b.sessionAt Address.ownHost).Names name) :
    (site.respond request b).result = .ok (.page 200 ⟨"", [], .dashboard name⟩ true) ∧
      ∀ key, Option.Rel Value.Alike ((b.sessionAt Address.ownHost).get? key)
        (((site.respond request b).browser.sessionAt Address.ownHost).get? key) := by
  have hknown : (b.sessionAt Address.ownHost).username? = some name :=
    Session.username?_eq_some_iff.mpr hname
  have hvisitor : site.visitor ⟨request, b.shownAt request.address⟩
      (b.sessionAt Address.ownHost) = ⟨.ok (some name), b.sessionAt Address.ownHost, false, []⟩ := by
    rw [visitor_of_bare h hb hr, identify, hknown]
    rfl
  have hdashboard := dashboard_of_known hvisitor hb.quiet
  dsimp only at hdashboard
  rw [page_of_known hr] at hdashboard
  exact respond_of_same h hb hr hdashboard rfl

theorem respond_of_borne (h : site.settings.IsUsual) (hb : b.IsBare) (hr : request.AsksDashboard)
    (hunknown : (b.sessionAt Address.ownHost).username? = none)
    (hpair : request.basicPair? = .ok (some (u, p)))
    (hconf : site.gate.configured = ⟨.text u, .text p⟩) :
    (site.respond request b).result = .ok (.page 200 ⟨"", [], .dashboard u⟩ true) ∧
      ((site.respond request b).browser.sessionAt Address.ownHost).get? recordKey =
        some (loginRecord (.text u)) ∧
      ∀ key ≠ recordKey, Option.Rel Value.Alike ((b.sessionAt Address.ownHost).get? key)
        (((site.respond request b).browser.sessionAt Address.ownHost).get? key) := by
  have hvisitor : site.visitor ⟨request, b.shownAt request.address⟩
      (b.sessionAt Address.ownHost) =
        ⟨.ok (some u), (b.sessionAt Address.ownHost).withRecord (.text u), true, []⟩ := by
    rw [visitor_of_bare h hb hr, identify, hunknown, hpair]
    simp only [permit_of_isUsual h, Gate.vouch_of_configured hconf]
    rfl
  have hkeyed : (b.sessionAt Address.ownHost).IsKeyed := hb.usual.keyed _
  have hother : ∀ {key : String}, key ≠ recordKey →
      ((b.sessionAt Address.ownHost).withRecord (.text u)).get? key =
        (b.sessionAt Address.ownHost).get? key :=
    fun hne => Session.get?_insert_of_ne hne _ _
  have hunordered : ((b.sessionAt Address.ownHost).withRecord (.text u)).get? Session.orderKey =
      none := by
    rw [hother (by decide), hb.unordered]
  have hdashboard := dashboard_of_known hvisitor (by rw [hother (by decide), hb.quiet])
  dsimp only at hdashboard
  rw [page_of_known hr] at hdashboard
  obtain ⟨hresult, hleft⟩ := respond_of_bare h hb hr hdashboard rfl hunordered
  refine ⟨hresult, hleft.get?_withRecord hkeyed, fun key hne => ?_⟩
  have hrecorded : ((b.sessionAt Address.ownHost).withRecord (.text u)).IsKeyed :=
    hkeyed.insert _ (Value.isKeyed_loginRecord u)
  rw [← hother hne]
  refine hleft.alike hrecorded (by simp) ?_
  rw [Session.erase_of_get?_eq_none hunordered]

/-- Whose header is read, but is not the configured pair, is sent to the login page. -/
theorem respond_of_unborne (h : site.settings.IsUsual) (hb : b.IsBare) (hr : request.AsksDashboard)
    (hunknown : (b.sessionAt Address.ownHost).username? = none)
    (hconf : site.gate.configured = ⟨.text u, .text p⟩) {pair? : Option (String × String)}
    (hpair : request.basicPair? = .ok pair?) (hne : pair? ≠ some (u, p)) :
    (site.respond request b).result =
        .ok (.redirect (String.ofList (Location.toLogin (Request.dashboardPlace request.query)))) ∧
      ∀ key, Option.Rel Value.Alike ((b.sessionAt Address.ownHost).get? key)
        (((site.respond request b).browser.sessionAt Address.ownHost).get? key) := by
  have hvisitor : site.visitor ⟨request, b.shownAt request.address⟩
      (b.sessionAt Address.ownHost) = .same (.ok none) (b.sessionAt Address.ownHost) := by
    rw [visitor_of_bare h hb hr, identify, hunknown, hpair]
    cases pair? with
    | none => rfl
    | some pair =>
      obtain ⟨v, q⟩ := pair
      have hwrong : ¬ (v = u ∧ q = p) := by
        rintro ⟨rfl, rfl⟩
        exact hne rfl
      simp only [permit_of_isUsual h, Gate.vouch_of_ne hconf hwrong]
      rfl
  have hdashboard := dashboard_of_unknown h hvisitor
  rw [loginDetour_of_home hr.address] at hdashboard
  exact respond_of_same h hb hr hdashboard (sealed_toLogin _)

/-- A header that puts off its reader makes the exchange fail. -/
theorem not_redirect_of_fault (h : site.settings.IsUsual) (hb : b.IsBare)
    (hr : request.AsksDashboard) (hunknown : (b.sessionAt Address.ownHost).username? = none)
    {fault : Fault} (hpair : request.basicPair? = .error fault) (location : String) :
    (site.respond request b).result ≠ .ok (.redirect location) := by
  intro hsent
  obtain ⟨standing, made, hstanding, hmade, _⟩ :=
    respond_answered h hb.usual (isRooted_of_home hr.address) hsent (by simp)
  obtain rfl : .ok "localhost" = standing :=
    Except.ok.inj ((standing_of_home h hr.address).symm.trans hstanding)
  have hvisitor : (site.visitor ⟨request, b.shownAt request.address⟩
      (b.sessionAt Address.ownHost)).result = .error fault := by
    rw [visitor_of_bare h hb hr, identify, hunknown, hpair]
    rfl
  rw [replyTo_of_asksDashboard h hr, dashboard, Reply.andThen_of_error hvisitor] at hmade
  simp at hmade

theorem guards_of_named (h : site.settings.IsUsual) (hb : b.IsBare) (hr : request.AsksDashboard)
    (hname : (b.sessionAt Address.ownHost).Names name) : site.Guards request b u p := by
  have hsome : ∃ name, (b.sessionAt Address.ownHost).Names name := ⟨name, hname⟩
  obtain ⟨hresult, _⟩ := respond_of_named h hb hr hname
  exact ⟨⟨_, hresult, iff_of_true rfl (Or.inl hsome)⟩,
    fun other hother => respond_of_named h hb hr hother,
    fun hnone => absurd hsome hnone, fun hnone => absurd hsome hnone⟩

theorem guards_of_borne (h : site.settings.IsUsual) (hb : b.IsBare) (hr : request.AsksDashboard)
    (hnone : ¬ ∃ name, (b.sessionAt Address.ownHost).Names name) (hbears : request.Bears u p)
    (hpair : request.basicPair? = .ok (some (u, p)))
    (hconf : site.gate.configured = ⟨.text u, .text p⟩) : site.Guards request b u p := by
  have hunknown := Session.username?_eq_none_of_not_names hnone
  have hresult := (respond_of_borne h hb hr hunknown hpair hconf).1
  exact ⟨⟨_, hresult, iff_of_true rfl (Or.inr hbears)⟩,
    fun name hname => absurd ⟨name, hname⟩ hnone,
    fun _ _ => respond_of_borne h hb hr hunknown hpair hconf,
    fun _ hnot => absurd hbears hnot⟩

theorem guards_of_unborne (h : site.settings.IsUsual) (hb : b.IsBare) (hr : request.AsksDashboard)
    (hnone : ¬ ∃ name, (b.sessionAt Address.ownHost).Names name) (hbears : ¬ request.Bears u p)
    (hconf : site.gate.configured = ⟨.text u, .text p⟩) {pair? : Option (String × String)}
    (hpair : request.basicPair? = .ok pair?) (hne : pair? ≠ some (u, p)) :
    site.Guards request b u p := by
  have hunknown := Session.username?_eq_none_of_not_names hnone
  have hneither : ¬ ((∃ name, (b.sessionAt Address.ownHost).Names name) ∨ request.Bears u p) :=
    not_or.mpr ⟨hnone, hbears⟩
  obtain ⟨hresult, hleft⟩ := respond_of_unborne h hb hr hunknown hconf hpair hne
  refine ⟨⟨_, hresult, iff_of_false (by simp [Response.status]) hneither⟩,
    fun name hname => absurd ⟨name, hname⟩ hnone, fun _ hyes => absurd hyes hbears,
    fun _ _ => ⟨⟨_, hresult, ?_, ?_⟩, hleft⟩⟩
  · rw [String.toList_ofList, Location.split_toLogin]
    rfl
  · rw [String.toList_ofList, Location.split_toLogin]
    exact Location.first?_targetQuery _

/-- The dashboard is guarded as told in `Guards` just if the session names a visitor or the header
can be read. -/
theorem guards_iff {s : Settings} (hu : s.IsUsual) (hs : s.site = .ok site)
    (huser : s.username = .text u) (hpass : s.password = .text p) (hb : b.IsBare)
    (hr : request.AsksDashboard) :
    site.Guards request b u p ↔
      (∃ name, (b.sessionAt Address.ownHost).Names name) ∨ ¬ request.IsGarbled := by
  obtain ⟨rfl, hconf, _⟩ := site_eq_ok hs
  rw [huser, hpass] at hconf
  by_cases hnames : ∃ name, (b.sessionAt Address.ownHost).Names name
  · obtain ⟨name, hname⟩ := hnames
    exact iff_of_true (guards_of_named hu hb hr hname) (Or.inl ⟨name, hname⟩)
  have hunknown := Session.username?_eq_none_of_not_names hnames
  cases hpair : request.basicPair? with
  | error fault =>
    have hgarbled : request.IsGarbled := (Request.basicPair?_eq_error_iff.mp hpair).2
    have hbears : ¬ request.Bears u p := by
      rw [← Request.basicPair?_eq_some_iff, hpair]
      simp
    refine iff_of_false (fun hguards => ?_) (not_or.mpr ⟨hnames, not_not.mpr hgarbled⟩)
    obtain ⟨⟨location, hsent, _⟩, _⟩ := hguards.2.2.2 hnames hbears
    exact not_redirect_of_fault hu hb hr hunknown hpair location hsent
  | ok pair? =>
    refine iff_of_true ?_ (Or.inr (Request.not_isGarbled hpair))
    by_cases hright : pair? = some (u, p)
    · subst hright
      have hbears := Request.basicPair?_eq_some_iff.mp hpair
      exact guards_of_borne hu hb hr hnames hbears hpair hconf
    · have hbears : ¬ request.Bears u p := by
        rw [← Request.basicPair?_eq_some_iff, hpair]
        simpa using hright
      exact guards_of_unborne hu hb hr hnames hbears hconf hpair hright

/-- A record that has the number one for its mark, beside other entries. -/
def halfRecord : Value :=
  .ofFields [("authenticated", .int 1), ("username", .text "root"), ("since", .null)]

def halfMarked : Browser :=
  ⟨[⟨Cookie.sessionKey Address.ownHost, false,
    .session (((∅ : Session).insert recordKey halfRecord).insert "theme" (.text "dark"))⟩]⟩

/-- The half-marked record counts for nothing, and the pair in the header replaces it. -/
theorem guards_halfMarked :
    halfMarked.IsBare ∧
      forTests.Guards (askVouched neighbour "admin" "correct") halfMarked "admin" "correct" := by
  have hrecord : halfRecord.IsKeyed := by
    simp [halfRecord, Value.ofFields, Value.IsKeyed, Value.EntriesAreKeyed, Value.IsText]
  have husual : halfMarked.IsUsual := by
    intro c hc
    obtain rfl := List.mem_singleton.mp hc
    have hkeyed := Session.isKeyed_empty.insert recordKey hrecord
    exact .session _ (hkeyed.insert "theme" (Value.isKeyed_text "dark"))
  have hb : halfMarked.IsBare := ⟨husual, by decide +kernel, by decide +kernel, rfl⟩
  have hr : (askVouched neighbour "admin" "correct").AsksDashboard := ⟨rfl, rfl, _, rfl⟩
  have hread : ¬ (askVouched neighbour "admin" "correct").IsGarbled :=
    Request.not_isGarbled (basicPair?_askVouched neighbour (by decide))
  exact ⟨hb, (guards_iff isUsual_forTests site_forTests rfl rfl hb hr).mpr (Or.inr hread)⟩

/-- The dashboard is asked for with a header that puts off its reader. -/
def askGarbled : Request :=
  { askDashboard neighbour "" with authorization := some "Basic \u00e9" }

/-- So a newcomer with such a header is not sent to the login page. -/
theorem not_guards_garbled :
    Browser.new.IsBare ∧ askGarbled.AsksDashboard ∧
      (forTests.respond askGarbled .new).result.toOption = none ∧
      ¬ forTests.Guards askGarbled .new "admin" "correct" := by
  have hb := Browser.isBare_new
  have hr : askGarbled.AsksDashboard := ⟨rfl, rfl, _, rfl⟩
  have hfault : askGarbled.basicPair? = .error .notAscii := by
    exact Request.basicPair?_eq_error_iff.mpr ⟨rfl, _, rfl, "Basic".toList, "\u00e9".toList, rfl,
      by decide, 'é', by decide, by decide⟩
  have hnone : ¬ ∃ name, (Browser.new.sessionAt Address.ownHost).Names name := by
    rintro ⟨name, entries, hrecord, _⟩
    cases hrecord
  have hbears : ¬ askGarbled.Bears "admin" "correct" := by
    rw [← Request.basicPair?_eq_some_iff, hfault]
    simp
  refine ⟨hb, hr, by decide +kernel, fun hguards => ?_⟩
  obtain ⟨⟨location, hsent, _⟩, _⟩ := hguards.2.2.2 hnone hbears
  exact not_redirect_of_fault isUsual_forTests hb hr rfl hfault location hsent

end Site

end Gatehouse
