import Gatehouse.Proofs.Page.Count
import Gatehouse.Proofs.Pages
import Gatehouse.Proofs.Route

namespace Gatehouse

open Session (noticesKey)

/-- A reply with a page has taken the notices out of the session; any other has left them there. -/
inductive Reply.Spends (r : Reply Response) (s : Session) : Prop
  | page {status : Nat} {page : Page} {sent : Bool} (shown : r.result = .ok (.page status page sent))
    (taken : r.session.get? noticesKey = none)
  | other (unshown : ∀ status page sent, r.result ≠ .ok (.page status page sent))
    (left : r.session.get? noticesKey = s.get? noticesKey)

theorem Reply.Spends.andThen {α : Type} {r : Reply α} {next : α → Session → Reply Response}
    {s : Session} (hr : r.session.get? noticesKey = s.get? noticesKey)
    (hnext : ∀ a, r.result = .ok a → (next a r.session).Spends r.session) :
    (r.andThen next).Spends s := by
  cases hresult : r.result with
  | error fault =>
    rw [andThen_of_error hresult]
    exact .other (by simp) hr
  | ok a =>
    have hspends := hnext a hresult
    rw [andThen_of_ok hresult]
    cases hspends with
    | page shown taken => exact .page shown taken
    | other unshown left => exact .other unshown (left.trans hr)

theorem Session.get?_takeNotices (s : Session) : s.takeNotices.session.get? noticesKey = none := by
  unfold takeNotices
  split
  next hnone => exact hnone
  next => exact get?_erase_self s noticesKey

namespace Site

variable {site : Site} {request : Request} {visit : Visit} {session : Session}

theorem spends_same {result : Except Fault Response}
    (h : ∀ status page sent, result ≠ .ok (.page status page sent)) :
    (Reply.same result session).Spends session := .other h rfl

theorem spends_showPage (hn : session.HasOwnNotices) (request : Request) (status : Nat)
    (content : Content) : (showPage request session status content).Spends session := by
  have hresult : (showPage request session status content).result =
      .ok (.page status ⟨request.address.root, List.replicate session.waiting .ofLogout, content⟩
        !request.wantsHead) := by
    rw [showPage, Reply.result_map, hn.takeNotices]
    rfl
  exact .page hresult session.get?_takeNotices

section Answer

variable (h : site.settings.IsUsual) (hn : session.HasOwnNotices)
include h hn

theorem spends_showLoginPage (status : Nat) (view : FormView) :
    (site.showLoginPage visit session status view).Spends session := by
  have hsame := notices_of_visitor h visit session
  exact .andThen hsame fun _ _ => spends_showPage (hn.congr hsame) _ _ _

theorem spends_dashboard : (site.dashboard visit session).Spends session := by
  have hsame := notices_of_visitor h visit session
  refine .andThen hsame fun who _ => ?_
  split
  next => exact spends_showPage (hn.congr hsame) _ _ _
  next =>
    split
    next => exact spends_same (by simp)
    next => exact spends_same fun _ _ _ => loginDetour_ne_page _

theorem spends_afterLogin (outcome : Outcome) :
    (site.afterLogin visit outcome session).Spends session := by
  unfold afterLogin
  split
  next => exact spends_same (by simp)
  next => exact spends_showLoginPage h hn _ _
  next => exact spends_same fun _ _ _ => redirectTo_ne_page _

theorem spends_submitLogin : (site.submitLogin visit session).Spends session := by
  unfold submitLogin
  dsimp only
  split
  next => exact spends_same (by simp)
  next => exact spends_same fun _ _ _ => deny_ne_page _ _
  next => exact spends_same (by simp)
  next payload _ _ =>
    rw [permit_of_isUsual h]
    have hsame : (site.gate.login session payload (Value.ofText? visit.request.target?)
        visit.request.origin).session.get? noticesKey = session.get? noticesKey := by
      rcases site.gate.login_cases session payload (Value.ofText? visit.request.target?)
        visit.request.origin with ⟨_, _, hr⟩ | ⟨_, hr⟩ | ⟨_, _, _, hr⟩ | ⟨u, p, _, _, hr⟩
      · rw [hr]
      · rw [hr]; rfl
      · rw [hr]
      · rw [hr]
        exact Session.get?_insert_of_ne (by decide) _ _
    exact .andThen hsame fun outcome _ => spends_afterLogin h (hn.congr hsame) outcome

theorem spends_answer {standing : Except Denial String}
    (hout : ∀ name, standing = .ok name →
      Route.of (site.asked visit.request) visit.request.path ≠ .endpoint .logout) :
    (site.answer standing visit session).Spends session := by
  cases standing with
  | error denial => exact spends_same fun _ _ _ => deny_ne_page _ _
  | ok name =>
    unfold answer answerAs
    dsimp only
    split
    next => exact spends_same fun _ _ _ => deny_ne_page _ _
    next => exact spends_same fun _ _ _ => deny_ne_page _ _
    next => exact spends_same fun _ _ _ => deny_ne_page _ _
    next => exact spends_same fun _ _ _ => deny_ne_page _ _
    next => exact spends_same (by simp)
    next => exact spends_dashboard h hn
    next => exact spends_showLoginPage h hn _ _
    next => exact spends_submitLogin h hn
    next hroute => exact absurd hroute (hout name rfl)

omit hn in
/-- A logout leaves one notice more. -/
theorem waiting_logout (hp : session.IsPlain) :
    (site.logout request session).session.waiting = session.waiting + 1 := by
  rw [logout, permit_of_isUsual h, Reply.andThen_of_ok rfl]
  have herased : (site.gate.logout session request.origin).session = session.erase recordKey := rfl
  obtain ⟨t, ht, _⟩ := (hp.erase recordKey).addNotice_ok "info" logoutNotice
  simp only [herased, ht]
  rw [Session.waiting_addNotice ht, Session.waiting_congr (Session.get?_erase_of_ne (by decide) _)]

end Answer

end Site

namespace Request

/-- The logout is asked for by its path, with any number of slashes in front, and by a method of its
own. -/
def AsksLogout (r : Request) : Prop :=
  r.normalPath = Endpoint.logout.path.toList ∧
    (r.method = .get ∨ r.method = .head ∨ r.method = .post)

/-- A request gets as far as the endpoints: it asks for no lasting connection, and the site can call
itself by the name that it is asked by. -/
def IsHeard (r : Request) : Prop :=
  r.address.isLasting = false ∧ (Site.encodedName r.address.knownHost).toOption.isSome

def LogsOut (r : Request) : Prop := r.AsksLogout ∧ r.IsHeard

/-- The same request with all of its answer asked for. -/
def asGet (r : Request) : Request := { r with verb := "GET" }

theorem AsksLogout.path_ne {r : Request} (h : r.AsksLogout) : r.path ≠ "" := by
  intro hempty
  have hnormal := h.1
  rw [normalPath, hempty] at hnormal
  exact absurd hnormal (by decide)

instance : DecidablePred AsksLogout := fun _ => inferInstanceAs (Decidable (_ ∧ _))

instance : DecidablePred IsHeard := fun _ => inferInstanceAs (Decidable (_ ∧ _))

instance : DecidablePred LogsOut := fun _ => inferInstanceAs (Decidable (_ ∧ _))

end Request

namespace Site

variable {site : Site} {request : Request} {b : Browser}

theorem logsOut_iff (h : site.settings.IsUsual) : request.LogsOut ↔
    (∃ name, encodedName request.address.knownHost = .ok name) ∧
      Route.of (site.asked request) request.path = .endpoint .logout := by
  have hname : (encodedName request.address.knownHost).toOption.isSome ↔
      ∃ name, encodedName request.address.knownHost = .ok name := by
    cases encodedName request.address.knownHost <;> simp [Except.toOption]
  rw [asked_of_isUsual h, Route.of_eq_endpoint_iff, ← hname]
  constructor
  · rintro ⟨hasks, hlasting, hencoded⟩
    refine ⟨hencoded, hasks.path_ne, hlasting, hasks.1, ?_⟩
    rcases hasks.2 with hm | hm | hm <;> simp [hm, Endpoint.allMethods]
  · rintro ⟨hencoded, _, hlasting, hnormal, hmethod, hne⟩
    refine ⟨⟨hnormal, ?_⟩, hlasting, hencoded⟩
    simpa [Endpoint.allMethods, hne] using hmethod

/-- What becomes of the notices of a session in an exchange. -/
inductive Fate (request : Request) (before : Session) (result : Except Fault Response)
    (after : Session) : Prop
  /-- A logout sends the visitor to the login page and leaves one notice more. -/
  | added (out : request.LogsOut) (redirected : result = .ok (.redirect "/login"))
    (more : after.waiting = before.waiting + 1)
  /-- A page shows all notices that waited, each in a block of its own, and none is left. -/
  | shown {status : Nat} {page : Page} {sent : Bool} (stays : ¬ request.LogsOut)
    (answered : result = .ok (.page status page sent))
    (notices : before.takeNotices.result = .ok page.notices)
    (blocks : page.logoutBlocks = before.waiting) (taken : after.get? noticesKey = none)
  /-- Where there is neither a logout nor a page, the notices stay. -/
  | kept (stays : ¬ request.LogsOut)
    (unshown : ∀ status page sent, result ≠ .ok (.page status page sent))
    (same : after.get? noticesKey = before.get? noticesKey)

/-- How many blocks with the notice of a logout an answer shows. -/
def blocksIn : Except Fault Response → Nat
  | .ok (.page _ page _) => page.logoutBlocks
  | _ => 0

/-- What waited before, and what a logout adds, is shown or waits afterwards. -/
theorem Fate.balance {before after : Session} {result : Except Fault Response}
    (hfate : Fate request before result after) :
    blocksIn result + after.waiting = before.waiting + if request.LogsOut then 1 else 0 := by
  cases hfate with
  | added out redirected more =>
    have hnone : blocksIn (.ok (.redirect "/login")) = 0 := rfl
    rw [redirected, more, if_pos out, hnone, Nat.zero_add]
  | @shown status page sent stays answered notices blocks taken =>
    have hblocks : blocksIn (.ok (.page status page sent)) = before.waiting := blocks
    rw [answered, if_neg stays, Session.waiting_of_none taken, hblocks]
  | kept stays unshown same =>
    have hnone : blocksIn result = 0 := by
      unfold blocksIn
      split
      next => exact absurd rfl (unshown _ _ _)
      next => rfl
    rw [hnone, if_neg stays, Session.waiting_congr same, Nat.zero_add, Nat.add_zero]

section Own

variable (h : site.settings.IsUsual) (ho : b.IsOwn site) (hn : b.HasOwnNotices)
  (ha : request.address.IsRooted)
include h ho hn ha

theorem notices_of_made {standing : Except Denial String}
    (hs : site.standing request.address = .ok standing) {made sent : Response}
    (hmade : (site.replyTo request b standing).result = .ok made)
    (hsealed : made.sealed = .ok sent) :
    ((site.respond request b).browser.sessionAt request.address.cookieHost).get? noticesKey =
      (site.replyTo request b standing).session.get? noticesKey := by
  have hplain := isPlain_replyTo h request (ho.plain _) standing
  have hnotices := hasOwnNotices_replyTo h request hn standing
  obtain ⟨_, hleft⟩ := respond_of_remember h ho.usual ha hs hmade hsealed fun order horder => by
    simp [hplain.unordered] at horder
  exact get?_of_answered h ho.usual hleft (by decide) fun v hv => hnotices.stored hv

theorem fate_of_respond (hexit : site.gate.exit = .text "/login") :
    Fate request (b.sessionAt request.address.cookieHost) (site.respond request b).result
      ((site.respond request b).browser.sessionAt request.address.cookieHost) := by
  have hs := standing_of_isUsual h request.address
  by_cases hout : request.LogsOut
  · obtain ⟨⟨name, hname⟩, hroute⟩ := (logsOut_iff h).mp hout
    rw [hname] at hs
    have hreply : site.replyTo request b (.ok name) =
        site.logout request (b.sessionAt request.address.cookieHost) := by
      simp only [replyTo, answer, answerAs, hroute]
    have hmade : (site.replyTo request b (.ok name)).result = .ok (.redirect "/login") := by
      rw [hreply]
      exact logout_ok h hexit (ho.plain _)
    have hsealed : (Response.redirect "/login").sealed = .ok (.redirect "/login") :=
      ok_of_toOption (by decide +kernel)
    refine .added hout (respond_ok h ho.usual ha (ho.plain _) hs hmade hsealed) ?_
    rw [Session.waiting_congr (notices_of_made h ho hn ha hs hmade hsealed), hreply,
      waiting_logout h (ho.plain _)]
  · have hspends : (site.replyTo request b (encodedName request.address.knownHost)).Spends
        (b.sessionAt request.address.cookieHost) :=
      spends_answer h (hn _) fun name hname hroute =>
        hout ((logsOut_iff h).mpr ⟨⟨name, hname⟩, hroute⟩)
    cases hspends with
    | page shown taken =>
      have hresult := respond_ok h ho.usual ha (ho.plain _) hs shown rfl
      have hnotices := (serves_of_respond h ho.usual ha hresult).notices
      have hown := Except.ok.inj (hnotices.symm.trans (hn _).takeNotices)
      exact .shown hout hresult hnotices (Page.logoutBlocks_eq hown)
        ((notices_of_made h ho hn ha hs shown rfl).trans taken)
    | other unshown left =>
      refine .kept hout (fun status page sent hr => ?_) ?_
      · obtain ⟨standing, made, hs', hmade, hsealed, _⟩ :=
          respond_answered h ho.usual ha hr (by simp)
        obtain rfl := Except.ok.inj (hs.symm.trans hs')
        obtain rfl := Response.eq_page_of_sealed hsealed
        exact unshown _ _ _ hmade
      · have hnotices := hasOwnNotices_replyTo h request hn (encodedName request.address.knownHost)
        exact (get?_of_respond h ho.usual ha hs (by decide) fun v hv => hnotices.stored hv).elim id
          fun hreply => hreply.trans left

omit hn

/-- A request for the logout that does not get as far is turned away. -/
theorem refused_of_not_isHeard (hasks : request.AsksLogout) (hnot : ¬ request.IsHeard) :
    ∃ denial sent, (site.respond request b).result = .ok (.denied denial sent) ∧
      denial.status = 400 := by
  have hs := standing_of_isUsual h request.address
  have hdenied : ∀ denial, (∀ location, denial ≠ Denial.moved location) →
      (site.replyTo request b (encodedName request.address.knownHost)).result =
        site.deny request denial →
      (site.respond request b).result = .ok (.denied denial !request.wantsHead) := by
    intro denial hm hmade
    rw [deny_of_isUsual h hm] at hmade
    refine respond_ok h ho.usual ha (ho.plain _) hs hmade ?_
    cases denial with
    | moved location => exact absurd rfl (hm location)
    | _ => rfl
  cases hname : encodedName request.address.knownHost with
  | error denial =>
    obtain rfl := eq_badName_of_encodedName hname
    refine ⟨_, _, hdenied .badName (by simp) ?_, rfl⟩
    rw [hname]
    rfl
  | ok name =>
    have hlasting : request.address.isLasting = true := by
      by_contra hnone
      exact hnot ⟨by simpa using hnone, by rw [hname]; rfl⟩
    have hroute : Route.of (site.asked request) request.path = .wrongProtocol := by
      rw [asked_of_isUsual h, hlasting, Route.of_path hasks.path_ne hasks.1]
      rcases hasks.2 with hm | hm | hm <;> rw [hm] <;> decide
    refine ⟨_, _, hdenied .wrongProtocol (by simp) ?_, rfl⟩
    rw [hname]
    simp only [replyTo, answer, answerAs, hroute]
    rfl

end Own

section Head

variable {status : Nat} {page : Page} {sent : Bool} {session : Session} {cookies : List Cookie}

theorem visitor_asGet : site.visitor ⟨request.asGet, cookies⟩ session =
    site.visitor ⟨request, cookies⟩ session := rfl

theorem showPage_asGet {shown : Nat} {content : Content}
    (hr : (showPage request session shown content).result = .ok (.page status page sent)) :
    (showPage request.asGet session shown content).result = .ok (.page status page true) := by
  obtain ⟨notices, hnotices, hpage⟩ := map_eq_ok_iff.mp hr
  obtain ⟨rfl, rfl, _⟩ := Response.page.inj hpage
  exact map_eq_ok_iff.mpr ⟨notices, hnotices, rfl⟩

theorem showLoginPage_asGet {shown : Nat} {view : FormView}
    (hr : (site.showLoginPage ⟨request, cookies⟩ session shown view).result =
      .ok (.page status page sent)) :
    (site.showLoginPage ⟨request.asGet, cookies⟩ session shown view).result =
      .ok (.page status page true) := by
  obtain ⟨who, hwho, hpage⟩ := Reply.result_andThen_eq_ok_iff.mp hr
  rw [showLoginPage, visitor_asGet]
  exact Reply.result_andThen_eq_ok_iff.mpr ⟨who, hwho, showPage_asGet hpage⟩

theorem dashboard_asGet
    (hr : (site.dashboard ⟨request, cookies⟩ session).result = .ok (.page status page sent)) :
    (site.dashboard ⟨request.asGet, cookies⟩ session).result = .ok (.page status page true) := by
  obtain ⟨who, hwho, hpage⟩ := Reply.result_andThen_eq_ok_iff.mp hr
  rw [dashboard, visitor_asGet]
  refine Reply.result_andThen_eq_ok_iff.mpr ⟨who, hwho, ?_⟩
  cases who with
  | some username => exact showPage_asGet hpage
  | none =>
    dsimp only at hpage
    split at hpage
    next => simp at hpage
    next =>
      rw [Reply.result_same] at hpage
      exact absurd hpage (loginDetour_ne_page _)

theorem route_asGet (h : site.settings.IsUsual) {e : Endpoint} (hhead : request.method = .head)
    (hroute : Route.of (site.asked request) request.path = .endpoint e) :
    Route.of (site.asked request.asGet) request.asGet.path = .endpoint e := by
  have hget : request.asGet.method = .get := by
    have : Method.ofName "GET" = .get := by decide
    exact this
  rw [asked_of_isUsual h, Route.of_eq_endpoint_iff] at hroute ⊢
  obtain ⟨hne, hlasting, hpath, hmethod, _⟩ := hroute
  rw [hhead] at hmethod
  refine ⟨hne, hlasting, hpath, ?_, by simp [hget]⟩
  rw [hget]
  cases e <;> simp [Endpoint.allMethods] at hmethod ⊢

theorem Shows.exists_endpoint {content : Content}
    (hshows : site.Shows request session status content) :
    ∃ e, Route.of (site.asked request) request.path = .endpoint e := by
  cases hshows with
  | asked route => exact ⟨_, route⟩
  | malformed route => exact ⟨_, route⟩
  | rejected route => exact ⟨_, route⟩
  | dashboard route => exact ⟨_, route⟩

/-- Where only the head is asked for, the page is made that would else be sent. -/
theorem page_of_head (h : site.settings.IsUsual) (ho : b.IsOwn site)
    (ha : request.address.IsRooted)
    (hr : (site.respond request b).result = .ok (.page status page false)) :
    (site.respond request.asGet b).result = .ok (.page status page true) := by
  obtain ⟨standing, made, hs, hmade, hsealed, _⟩ := respond_answered h ho.usual ha hr (by simp)
  obtain rfl := Response.eq_page_of_sealed hsealed
  have hserves := serves_of_respond h ho.usual ha hr
  have hhead : request.method = .head := by
    have hwants : request.wantsHead = true := by simpa using hserves.sent
    rw [Request.method, of_decide_eq_true hwants]
    decide
  cases standing with
  | error denial => exact absurd hmade (deny_ne_page _ _)
  | ok name =>
    obtain ⟨e, hroute⟩ := hserves.shows.exists_endpoint
    have hget := route_asGet h hhead hroute
    have hpage : (site.replyTo request.asGet b (.ok name)).result =
        .ok (.page status page true) := by
      simp only [replyTo, answer, answerAs, hroute] at hmade
      simp only [replyTo, answer, answerAs, hget]
      cases e with
      | dashboard => exact dashboard_asGet hmade
      | loginForm => exact showLoginPage_asGet hmade
      | submitLogin =>
        rw [asked_of_isUsual h, Route.of_eq_endpoint_iff, hhead] at hroute
        simp [Endpoint.allMethods] at hroute
      | logout => exact absurd hmade logout_ne_page
    have hrooted : request.asGet.address.IsRooted := ha
    have hstanding : site.standing request.asGet.address = .ok (.ok name) := hs
    exact respond_ok h ho.usual hrooted (ho.plain _) hstanding hpage rfl

end Head

end Site

end Gatehouse
