import Gatehouse.Proofs.Gate
import Gatehouse.Proofs.Location.Local
import Gatehouse.Proofs.Settings

namespace Gatehouse

/-- A response that leads nowhere or to a local path. -/
def Response.IsLocal (r : Response) : Prop :=
  ∀ location, r.location? = some location → Target.isLocal location.toList

namespace Target

/-- A usable target is local itself. -/
theorem resolve_cases (asked fallback : Value) : resolve asked fallback = fallback ∨
    ∃ path, resolve asked fallback = .text path ∧ isLocal path.toList := by
  unfold resolve
  split
  next s =>
    split
    next => exact Or.inl rfl
    next =>
      dsimp only
      split
      next hl => exact Or.inr ⟨_, rfl, by simpa using hl⟩
      next => exact Or.inl rfl
  next => exact Or.inl rfl

/-- So nothing but a local path comes out where the fallback is one. -/
theorem resolve_isLocal {fallback : String} (h : isLocal fallback.toList) (asked : Value) :
    ∃ path, resolve asked (.text fallback) = .text path ∧ isLocal path.toList := by
  rcases resolve_cases asked (.text fallback) with hsame | hlocal
  · exact ⟨fallback, hsame, h⟩
  · exact hlocal

end Target

namespace Site

theorem checked_eq_ok {r response : Response} (h : r.checked = .ok response) : response = r := by
  unfold Response.checked at h
  split at h
  next =>
    split at h
    next => simp at h
    next => exact (Except.ok.inj h).symm
  next => exact (Except.ok.inj h).symm

theorem redirectTo_isLocal {path : String} {response : Response} (hp : Target.isLocal path.toList)
    (h : redirectTo (.text path) = .ok response) : response.IsLocal := by
  intro location hl
  rw [checked_eq_ok h] at hl
  obtain rfl := Option.some.inj hl
  exact hp

/-- The way to the login page is a local path if the login page is at one, since the place that was
asked for is escaped. -/
theorem loginDetour_isLocal {request : Request}
    (hlogin : Target.isLocal (request.address.root ++ Endpoint.loginForm.path).toList)
    {response : Response} (h : loginDetour request = .ok response) : response.IsLocal := by
  refine redirectTo_isLocal ?_ h
  rw [String.toList_ofList]
  exact Location.isLocal_withField hlogin (by decide) _

theorem showPage_isLocal {request : Request} {session : Session} {status : Nat} {content : Content}
    {response : Response} (h : (showPage request session status content).result = .ok response) :
    response.IsLocal := by
  obtain ⟨_, _, rfl⟩ := map_eq_ok_iff.mp h
  intro location hl
  simp [Response.location?] at hl

variable {site : Site} {visit : Visit} {session : Session}

theorem result_of_permit {α : Type} {r : Reply α} {a : α}
    (h : (site.permit session r).result = .ok a) : r.result = .ok a := by
  unfold permit at h
  split at h
  next => simp at h
  next => exact h

theorem showLoginPage_isLocal {status : Nat} {view : FormView} {response : Response}
    (h : (site.showLoginPage visit session status view).result = .ok response) :
    response.IsLocal := by
  obtain ⟨_, _, hp⟩ := Reply.result_andThen_eq_ok_iff.mp h
  exact showPage_isLocal hp

theorem dashboard_isLocal
    (hlogin : Target.isLocal (visit.request.address.root ++ Endpoint.loginForm.path).toList)
    {response : Response} (h : (site.dashboard visit session).result = .ok response) :
    response.IsLocal := by
  obtain ⟨who, _, hp⟩ := Reply.result_andThen_eq_ok_iff.mp h
  cases who with
  | some username => exact showPage_isLocal hp
  | none =>
    dsimp only at hp
    split at hp
    next => simp at hp
    next =>
      rw [Reply.result_same] at hp
      exact loginDetour_isLocal hlogin hp

theorem deny_isLocal {request : Request} {denial : Denial} (hm : ∀ l, denial ≠ .moved l)
    {response : Response} (h : site.deny request denial = .ok response) : response.IsLocal := by
  unfold deny at h
  split at h
  next => simp at h
  next =>
    rw [checked_eq_ok h]
    intro location hl
    cases denial with
    | moved l => exact absurd rfl (hm l)
    | _ => simp [Response.location?] at hl

/-- An admitted visitor is sent to the resolved target; where there is nothing to be sent to, the
form is shown again. -/
theorem submitLogin_isLocal {landing : String} (hl : site.gate.landing = .text landing)
    (hlocal : Target.isLocal landing.toList) {response : Response}
    (h : (site.submitLogin visit session).result = .ok response) : response.IsLocal := by
  unfold submitLogin at h
  dsimp only at h
  split at h
  next => simp at h
  next => exact deny_isLocal (by simp) h
  next => simp at h
  next payload _ _ =>
    obtain ⟨outcome, ho, hafter⟩ := Reply.result_andThen_eq_ok_iff.mp h
    have hlogin := result_of_permit ho
    rcases Gate.login_cases site.gate session payload
      (Value.ofText? visit.request.target?) visit.request.origin with
      ⟨_, _, hr⟩ | ⟨_, hr⟩ | ⟨_, _, _, hr⟩ | ⟨_, _, _, _, hr⟩
    · rw [hr] at hlogin
      obtain rfl := Except.ok.inj hlogin
      exact showLoginPage_isLocal hafter
    · rw [hr] at hlogin
      simp at hlogin
    · rw [hr] at hlogin
      obtain rfl := Except.ok.inj hlogin
      exact showLoginPage_isLocal hafter
    · rw [hr] at hlogin
      obtain rfl := Except.ok.inj hlogin
      obtain ⟨path, hpath, hp⟩ :=
        Target.resolve_isLocal hlocal (Value.ofText? visit.request.target?)
      rw [hl, hpath] at hafter
      exact redirectTo_isLocal hp hafter

theorem logout_isLocal {request : Request} {exit : String} (he : site.gate.exit = .text exit)
    (hlocal : Target.isLocal exit.toList) {response : Response}
    (h : (site.logout request session).result = .ok response) : response.IsLocal := by
  obtain ⟨outcome, ho, hafter⟩ := Reply.result_andThen_eq_ok_iff.mp h
  obtain rfl := Except.ok.inj (result_of_permit ho)
  split at hafter
  next => simp at hafter
  next => exact redirectTo_isLocal hlocal (by simpa [Outcome.location, he] using hafter)

theorem answerAs_isLocal {name : String} {response : Response}
    (h : (site.answerAs name visit session).result = .ok response)
    {landing exit : String} (hl : site.gate.landing = .text landing)
    (hlocal : Target.isLocal landing.toList) (he : site.gate.exit = .text exit)
    (helocal : Target.isLocal exit.toList)
    (hlogin : Target.isLocal (visit.request.address.root ++ Endpoint.loginForm.path).toList)
    {e : Endpoint} (hroute : Route.of (site.asked visit.request) visit.request.path = .endpoint e) :
    response.IsLocal := by
  simp only [answerAs, hroute] at h
  cases e with
  | dashboard => exact dashboard_isLocal hlogin h
  | loginForm => exact showLoginPage_isLocal h
  | submitLogin => exact submitLogin_isLocal hl hlocal h
  | logout => exact logout_isLocal he helocal h

theorem answer_isLocal {standing : Except Denial String} {response : Response}
    (h : (site.answer standing visit session).result = .ok response)
    (hstanding : ∀ l, standing ≠ .error (.moved l))
    {landing exit : String} (hl : site.gate.landing = .text landing)
    (hlocal : Target.isLocal landing.toList) (he : site.gate.exit = .text exit)
    (helocal : Target.isLocal exit.toList)
    (hlogin : Target.isLocal (visit.request.address.root ++ Endpoint.loginForm.path).toList)
    {e : Endpoint} (hroute : Route.of (site.asked visit.request) visit.request.path = .endpoint e) :
    response.IsLocal := by
  cases standing with
  | ok name => exact answerAs_isLocal h hl hlocal he helocal hlogin hroute
  | error denial => exact deny_isLocal (fun l hm => hstanding l (by rw [hm])) h

theorem eq_badName_of_encodedName {host : List Char} {denial : Denial}
    (h : encodedName host = .error denial) : denial = .badName := by
  unfold encodedName at h
  dsimp only at h
  split at h
  next => cases h
  next => exact (Except.error.inj h).symm

theorem encodedName_ne_moved (host : List Char) (l : String) :
    encodedName host ≠ .error (.moved l) := by
  intro h
  have hbad := eq_badName_of_encodedName h
  cases hbad

/-- A request is never sent elsewhere because of the name that the site is asked by. -/
theorem standing_ne_moved {address : Address} {standing : Except Denial String}
    (h : site.standing address = .ok standing) (l : String) : standing ≠ .error (.moved l) := by
  obtain ⟨known, _, h⟩ := bind_eq_ok_iff.mp h
  split at h
  next =>
    unfold ownName at h
    split at h
    next =>
      rw [← Except.ok.inj h]
      exact encodedName_ne_moved _ l
    next =>
      rw [← Except.ok.inj h]
      exact encodedName_ne_moved _ l
    next => simp at h
    next => simp at h
  next =>
    rw [← Except.ok.inj h]
    simp

theorem location?_of_sealed {r sent : Response} (h : r.sealed = .ok sent) {location : String}
    (hl : sent.location? = some location) :
    ∃ made, r.location? = some made ∧ Response.sealText made = .ok location := by
  unfold Response.sealed at h
  split at h
  next made =>
    obtain ⟨encoded, he, rfl⟩ := map_eq_ok_iff.mp h
    obtain rfl := Option.some.inj hl
    exact ⟨made, rfl, he⟩
  next made _ =>
    obtain ⟨encoded, he, rfl⟩ := map_eq_ok_iff.mp h
    obtain rfl := Option.some.inj hl
    exact ⟨made, rfl, he⟩
  next hredirect hmoved =>
    obtain rfl := Except.ok.inj h
    unfold Response.location? at hl
    split at hl
    next made => exact absurd rfl (hredirect made)
    next made sent => exact absurd rfl (hmoved made sent)
    next => simp at hl

theorem sealText_of_isLocal {path : String} (h : Target.isLocal path.toList) :
    ∃ sent, Response.sealText path = .ok sent ∧ Location.IsOnSite sent.toList := by
  obtain ⟨location, hl, honsite⟩ := Location.isOnSite_of_isLocal h
  refine ⟨String.ofList location, ?_, by simpa using honsite⟩
  rw [Response.sealText, hl]
  rfl

/-- If the landing place and the login page are at local paths, then every location that an endpoint
sends a browser to stays on the site, and there is none that could not be sent. -/
theorem location_isOnSite {s : Settings} {site : Site} (hs : s.site = .ok site) {landing : String}
    (hl : s.landing.getD (.text "/") = .text landing) (hlocal : Target.isLocal landing.toList)
    {request : Request}
    (hlogin : Target.isLocal (request.address.root ++ Endpoint.loginForm.path).toList)
    {e : Endpoint}
    (hroute : Route.of (site.asked request) request.path = .endpoint e) (browser : Browser) :
    (∀ response location, (site.respond request browser).result = .ok response →
      response.location? = some location → Location.IsOnSite location.toList) ∧
    (∀ name session response location,
      (site.answerAs name ⟨request, browser.shownAt request.address⟩ session).result =
        .ok response →
      response.location? = some location →
      ∃ sent, Response.sealText location = .ok sent ∧ Location.IsOnSite sent.toList) := by
  obtain ⟨_, _, hfallback, hexit⟩ := site_eq_ok hs
  have hlanding : site.gate.landing = .text landing := hfallback.trans hl
  have hexitlocal : Target.isLocal Endpoint.loginForm.path.toList := by decide
  constructor
  · intro response location hr hloc
    have hne : response ≠ .failed := by
      rintro rfl
      simp [Response.location?] at hloc
    obtain ⟨standing, session, made, hstanding, _, hmade, hsealed⟩ := respond_eq_ok hr hne
    obtain ⟨path, hpath, hsent⟩ := location?_of_sealed hsealed hloc
    have hp := answer_isLocal hmade (standing_ne_moved hstanding) hlanding hlocal hexit hexitlocal
      hlogin hroute path hpath
    obtain ⟨sent, hs, honsite⟩ := sealText_of_isLocal hp
    obtain rfl := Except.ok.inj (hs.symm.trans hsent)
    exact honsite
  · intro name session response location hr hloc
    exact sealText_of_isLocal
      (answerAs_isLocal hr hlanding hlocal hexit hexitlocal hlogin hroute location hloc)

/-- A login with a target that is escaped twice, with a space, a question mark, a letter past the
first 128 and a number sign in it. -/
def escapedLogin : Request where
  verb := "POST"
  query := "redirect_to=%252Fa%2520b%253F%C3%A9%2523x"
  body := "session%5Busername%5D=admin&session%5Bpassword%5D=correct"
  contentType := some "application/x-www-form-urlencoded"
  authorization := none
  origin := .text "127.0.0.1"
  agent := "test"
  address := ⟨"http", "localhost", "", "/login"⟩

theorem location_of_escapedLogin :
    (forTests.respond escapedLogin .new).result = .ok (.redirect "/a%20b?%C3%A9#x") ∧
      Location.IsOnSite "/a%20b?%C3%A9#x".toList := by
  have hr : (forTests.respond escapedLogin .new).result = .ok (.redirect "/a%20b?%C3%A9#x") :=
    ok_of_toOption (by decide +kernel)
  have hroute : Route.of (forTests.asked escapedLogin) escapedLogin.path =
      .endpoint .submitLogin := by
    decide +kernel
  exact ⟨hr, (location_isOnSite site_forTests rfl (by decide) (by decide) hroute .new).1 _ _ hr rfl⟩

end Site

end Gatehouse
