import Gatehouse.Proofs.Secrecy

namespace Gatehouse

namespace Datum

/-- What a text is made up of. -/
def points? : Datum → Option (List Utf16.Point)
  | .text s => some (s.toList.map .char)
  | .ragged t => some t.points
  | _ => none

theorem eq_ofPoints {v : Datum} {points : List Utf16.Point} (h : v.points? = some points) :
    v = ofPoints points := by
  cases v with
  | text s =>
    obtain rfl := Option.some.inj h
    rw [ofPoints_chars, String.ofList_toList]
  | ragged t =>
    obtain rfl := Option.some.inj h
    rw [ofPoints, dif_pos t.isRagged]
  | _ => cases h

end Datum

/-- Two requests that ask for the same in the same way, and differ at most in what they submit. -/
structure Request.Resembles (request other : Request) : Prop where
  address : other.address = request.address
  verb : other.verb = request.verb
  authorization : other.authorization = request.authorization
  origin : other.origin = request.origin
  agent : other.agent = request.agent
  target : other.target? = request.target?

/-- The request with the query and the body of another. -/
def Request.refilled (request other : Request) : Request :=
  { request with
    query := other.query, body := other.body, contentType := other.contentType, parts := other.parts }

theorem Request.Resembles.eq_refilled {request other : Request} (h : request.Resembles other) :
    other = request.refilled other := by
  obtain ⟨haddress, hverb, hauth, horigin, hagent, _⟩ := h
  obtain ⟨⟨verb, query, body, contentType, authorization, origin, agent, parts⟩, address⟩ := other
  subst haddress hverb hauth horigin hagent
  rfl

namespace Site

variable {site : Site} {request other : Request} {u p q : Datum} {cu cp : String}

/-- The login of a request fails, and the view that the form comes back with holds the password. -/
def Returns (site : Site) (request : Request) (session : Session) (password : Datum) : Prop :=
  ∃ payload view word, request.payload = .ok payload ∧
    (site.gate.login session payload (Value.ofText? request.target?) request.origin).result =
      .ok (.refused .wrongCredentials view) ∧
    view.fields.field? "password" = some (.text word) ∧ password = .text word

/-- The payload of a submission holds its pair, whatever the target is. -/
theorem Submits.reads (h : site.Submits request u p) (target : Value) :
    ∃ payload, request.payload = .ok payload ∧
      Submission.ofPayload payload target = .ok ⟨u, p, target⟩ := by
  obtain ⟨_, _, payload, asked, hpayload, hread⟩ := h
  exact ⟨payload, hpayload, Submission.ofPayload_retarget hread target⟩

/-- What a submission leads to depends on its pair and its target alone. -/
theorem Submits.submitLogin_congr (hrequest : site.Submits request u p)
    (hother : site.Submits other u p) (h : request.Resembles other) (cookies : List Cookie)
    (session : Session) :
    site.submitLogin ⟨other, cookies⟩ session = site.submitLogin ⟨request, cookies⟩ session := by
  obtain ⟨payload, hpayload, hread⟩ := hrequest.reads (Value.ofText? request.target?)
  obtain ⟨payload', hpayload', hread'⟩ := hother.reads (Value.ofText? request.target?)
  have hlogin : site.gate.login session payload' (Value.ofText? request.target?) request.origin =
      site.gate.login session payload (Value.ofText? request.target?) request.origin := by
    simp only [Gate.login, hread, hread']
  have hafter : site.afterLogin ⟨other, cookies⟩ = site.afterLogin ⟨request, cookies⟩ := by
    rw [h.eq_refilled]
    rfl
  simp only [submitLogin, hrequest.2.1, hother.2.1, hpayload, hpayload', h.target, h.origin, hlogin,
    hafter]

/-- What a refused login is answered with: the form comes back, and the refusal is logged. -/
def turnDown (site : Site) (visit : Visit) (session : Session) (username password : String)
    (target : Value) : Reply Response :=
  let refused : Reply Unit := ⟨.ok (), session, false, [.rejected visit.request.origin]⟩
  refused.andThen fun _ session => site.showLoginPage visit session
    Refusal.wrongCredentials.status
    (.returned username password target Refusal.wrongCredentials.notice)

theorem Submits.submitLogin_of_ne {name word : String}
    (h : site.Submits request (.text name) (.text word))
    (hconf : site.gate.configured = ⟨.text cu, .text cp⟩) (hne : ¬ (name = cu ∧ word = cp))
    (cookies : List Cookie) (session : Session) :
    site.submitLogin ⟨request, cookies⟩ session =
        site.turnDown ⟨request, cookies⟩ session name word (Value.ofText? request.target?) ∧
      site.Returns request session (.text word) := by
  obtain ⟨payload, hpayload, hread⟩ := h.reads (Value.ofText? request.target?)
  have hlogin := Gate.login_of_ne hconf hne hread session request.origin
  refine ⟨?_, payload, _, word, hpayload, by rw [hlogin], rfl, rfl⟩
  simp only [submitLogin, h.2.1, hpayload, hlogin]
  rfl

/-- A pair that is not of whole texts gets no further than to be looked at. -/
theorem Submits.submitLogin_of_fault? (h : site.Submits request u p)
    (hconf : site.gate.configured = ⟨.text cu, .text cp⟩) {fault : Fault}
    (hfault : Credential.fault? ⟨u, p⟩ = some fault) (cookies : List Cookie) (session : Session) :
    site.submitLogin ⟨request, cookies⟩ session = .same (.error fault) session := by
  obtain ⟨payload, hpayload, hread⟩ := h.reads (Value.ofText? request.target?)
  simp only [submitLogin, h.2.1, hpayload, Gate.login_of_fault? hconf hfault hread]
  rfl

/-- The password is in the view, but it is not put on the page. -/
theorem turnDown_password (site : Site) (visit : Visit) (session : Session) (name word other : String)
    (target : Value) :
    site.turnDown visit session name other target = site.turnDown visit session name word target :=
  rfl

/-- Nothing that is asked for a page but the target comes from the query or the body. -/
theorem turnDown_refilled (site : Site) (cookies : List Cookie) (session : Session)
    (name word : String) (target : Value) :
    site.turnDown ⟨request.refilled other, cookies⟩ session name word target =
      site.turnDown ⟨request, cookies⟩ session name word target := rfl

/-- The answers to two requests that resemble each other are what becomes of their logins. -/
theorem answer_of_resembles (h : request.Resembles other)
    (hroute : Route.of (site.asked request) request.path = .endpoint .submitLogin)
    (standing : Except Denial String) (cookies : List Cookie) (session : Session) :
    site.answer standing ⟨other, cookies⟩ session =
        site.answer standing ⟨request, cookies⟩ session ∨
      site.answer standing ⟨other, cookies⟩ session = site.submitLogin ⟨other, cookies⟩ session ∧
        site.answer standing ⟨request, cookies⟩ session =
          site.submitLogin ⟨request, cookies⟩ session := by
  cases standing with
  | error denial =>
    rw [h.eq_refilled]
    exact Or.inl rfl
  | ok name =>
    have hasked : site.asked other = site.asked request := by
      rw [h.eq_refilled]
      rfl
    have hpath : other.path = request.path := by
      rw [Request.path, Request.path, h.address]
    refine Or.inr ⟨?_, ?_⟩
    · simp only [answer, answerAs, hasked, hpath, hroute]
    · simp only [answer, answerAs, hroute]

/-- Requests that resemble each other are answered alike if they submit the same to a login. -/
theorem respond_eq_of_resembles (h : request.Resembles other)
    (hroute : Route.of (site.asked request) request.path = .endpoint .submitLogin)
    (hsubmit : ∀ cookies session,
      site.submitLogin ⟨other, cookies⟩ session = site.submitLogin ⟨request, cookies⟩ session)
    (browser : Browser) : site.respond other browser = site.respond request browser := by
  have hanswer : ∀ standing cookies session, site.answer standing ⟨other, cookies⟩ session =
      site.answer standing ⟨request, cookies⟩ session := by
    intro standing cookies session
    rcases site.answer_of_resembles h hroute standing cookies session with heq | ⟨hleft, hright⟩
    · exact heq
    · rw [hleft, hright, hsubmit]
  unfold respond
  dsimp only
  simp only [hanswer]
  rw [h.eq_refilled]
  rfl

theorem afterFault_congr (site : Site) (request : Request) (browser : Browser) (fault other : Fault)
    (session : Session) (written : Bool) (log : List Event) :
    (site.afterFault request browser other session written log).browser =
        (site.afterFault request browser fault session written log).browser ∧
      (site.afterFault request browser other session written log).log =
        (site.afterFault request browser fault session written log).log := by
  unfold afterFault
  split
  next => exact ⟨rfl, rfl⟩
  next => exact ⟨rfl, rfl⟩

/-- Two logins that end in a fault leave the same behind. -/
theorem respond_of_faults (h : request.Resembles other)
    (hroute : Route.of (site.asked request) request.path = .endpoint .submitLogin)
    {first second : Fault}
    (hfirst : ∀ cookies session,
      site.submitLogin ⟨request, cookies⟩ session = .same (.error first) session)
    (hsecond : ∀ cookies session,
      site.submitLogin ⟨other, cookies⟩ session = .same (.error second) session)
    (browser : Browser) :
    (site.respond other browser).browser = (site.respond request browser).browser ∧
      (site.respond other browser).log = (site.respond request browser).log := by
  have hstanding : site.standing other.address = site.standing request.address := by
    rw [h.address]
  have hshown : browser.shownAt other.address = browser.shownAt request.address := by
    rw [h.address]
  have hunopened : site.unopened other = site.unopened request := by
    rw [h.eq_refilled]
    rfl
  have hconclude : site.conclude other = site.conclude request := by
    rw [h.eq_refilled]
    rfl
  unfold respond
  dsimp only
  rw [hstanding, hshown, hunopened, hconclude]
  split
  next => exact ⟨rfl, rfl⟩
  next => exact ⟨rfl, rfl⟩
  next standing session _ _ =>
    rcases site.answer_of_resembles h hroute standing (browser.shownAt request.address) session
      with heq | ⟨hleft, hright⟩
    · rw [heq]
      exact ⟨rfl, rfl⟩
    · rw [hleft, hright, hfirst, hsecond]
      exact site.afterFault_congr request browser first second session false []

/-- A submission that is refused is answered alike whatever the password was, and leaves the same
browser and the same lines in the log, although the view of the form holds the password; as long as the
texts of both pairs can be encoded, or both fail at the same place. A login that fails there is neither
answered nor logged, and leaves nothing behind by which two of them could be told apart. -/
theorem respond_of_resembles {s : Settings} (hs : (s.withPair cu cp).site = .ok site)
    (h : request.Resembles other) (hrequest : site.Submits request u p)
    (hother : site.Submits other u q) (hp : ¬ (u = .text cu ∧ p = .text cp))
    (hq : ¬ (u = .text cu ∧ q = .text cp)) (browser : Browser) :
    (Credential.fault? ⟨u, q⟩ = Credential.fault? ⟨u, p⟩ →
      site.respond other browser = site.respond request browser) ∧
    (Credential.fault? ⟨u, p⟩ = none → Credential.fault? ⟨u, q⟩ = none →
      ∀ session, site.Returns request session p ∧ site.Returns other session q) ∧
    (∀ fault, Credential.fault? ⟨u, p⟩ = some fault → ∀ cookies session,
      site.submitLogin ⟨request, cookies⟩ session = .same (.error fault) session) ∧
    (∀ first second, Credential.fault? ⟨u, p⟩ = some first → Credential.fault? ⟨u, q⟩ = some second →
      (site.respond other browser).browser = (site.respond request browser).browser ∧
      (site.respond other browser).log = (site.respond request browser).log) := by
  obtain ⟨_, hconf, _⟩ := site_eq_ok hs
  have hfails : ∀ fault, Credential.fault? ⟨u, p⟩ = some fault → ∀ cookies session,
      site.submitLogin ⟨request, cookies⟩ session = .same (.error fault) session :=
    fun _ hfault => hrequest.submitLogin_of_fault? hconf hfault
  have hrefused : Credential.fault? ⟨u, p⟩ = none → Credential.fault? ⟨u, q⟩ = none →
      ∀ cookies session,
        site.submitLogin ⟨other, cookies⟩ session = site.submitLogin ⟨request, cookies⟩ session ∧
        site.Returns request session p ∧ site.Returns other session q := by
    intro hnone hnone' cookies session
    obtain ⟨name, word, hpair⟩ := Credential.texts_of_fault?_eq_none hnone
    obtain ⟨rfl, rfl⟩ := Credential.mk.inj hpair
    obtain ⟨_, word', hpair'⟩ := Credential.texts_of_fault?_eq_none hnone'
    obtain ⟨_, rfl⟩ := Credential.mk.inj hpair'
    obtain ⟨hdown, hreturns⟩ := hrequest.submitLogin_of_ne hconf (by simpa using hp) cookies session
    obtain ⟨hdown', hreturns'⟩ := hother.submitLogin_of_ne hconf (by simpa using hq) cookies session
    refine ⟨?_, hreturns, hreturns'⟩
    -- Both logins are turned down; what is sent then forgets first the password, then the body.
    rw [hdown', hdown, h.target, turnDown_password site _ session name word word', h.eq_refilled,
      turnDown_refilled]
  refine ⟨fun hsame => ?_, fun hnone hnone' session => (hrefused hnone hnone' [] session).2, hfails, ?_⟩
  · refine respond_eq_of_resembles h hrequest.1 (fun cookies session => ?_) browser
    cases hfault : Credential.fault? ⟨u, p⟩ with
    | none => exact (hrefused hfault (hsame.trans hfault) cookies session).1
    | some fault =>
      rw [hfails fault hfault, hother.submitLogin_of_fault? hconf (hsame.trans hfault)]
  · intro first second hfirst hsecond
    exact respond_of_faults h hrequest.1 (hfails first hfirst)
      (hother.submitLogin_of_fault? hconf hsecond) browser

theorem submits_of_read
    (hroute : Route.of (site.asked request) request.path = .endpoint .submitLogin)
    (htaken : site.tooLong request = .ok false) {us ps : List Utf16.Point}
    (hread : (request.payload.toOption.bind fun payload =>
      (Submission.ofPayload payload .null).toOption).map
        (fun s => (s.username.points?, s.password.points?)) = some (some us, some ps)) :
    site.Submits request (.ofPoints us) (.ofPoints ps) := by
  obtain ⟨⟨username, password, target⟩, hsub, hpair⟩ := Option.map_eq_some_iff.mp hread
  obtain ⟨hus, hps⟩ := Prod.mk.inj hpair
  obtain rfl : username = .ofPoints us := Datum.eq_ofPoints hus
  obtain rfl : password = .ofPoints ps := Datum.eq_ofPoints hps
  obtain ⟨payload, hpayload, hsub⟩ := Option.bind_eq_some_iff.mp hsub
  obtain rfl : target = .null := Submission.target_of_ofPayload (ok_of_toOption hsub)
  exact ⟨hroute, htaken, payload, .null, ok_of_toOption hpayload, ok_of_toOption hsub⟩

/-- A login form filled in with a wrong password that also stands on the page, and bodies in JSON with
one that is markup and one that cannot be encoded. -/
def misspelledForm : Request :=
  { guessedForm with
    body := formBody "/" "admin" "Sign in"
    address := ⟨"http", "localhost", "", "/login"⟩ }

def misspelledJson (password : String) : Request :=
  { guessedForm with
    query := "redirect_to=/"
    body := "\x7b\"session\": \x7b\"username\": \"admin\", \"password\": \"" ++ password ++
      "\"\x7d\x7d"
    contentType := some "application/json"
    address := ⟨"http", "localhost", "", "/login"⟩ }

theorem submits_misspelledJson :
    forTests.Submits (misspelledJson "<b>") (.text "admin") (.text "<b>") := by
  have hread : ((misspelledJson "<b>").payload.toOption.bind fun payload =>
      (Submission.ofPayload payload .null).toOption).map
        (fun s => (s.username.points?, s.password.points?)) =
        some (some ("admin".toList.map .char), some ("<b>".toList.map .char)) := by
    decide +kernel
  have hsubmits : forTests.Submits (misspelledJson "<b>") (.ofPoints ("admin".toList.map .char))
      (.ofPoints ("<b>".toList.map .char)) :=
    submits_of_read (by decide +kernel) (ok_of_toOption (by decide +kernel)) hread
  rwa [Datum.ofPoints_chars, Datum.ofPoints_chars, String.ofList_toList, String.ofList_toList]
    at hsubmits

theorem respond_of_misspelled :
    forTests.respond (misspelledJson "<b>") .new = forTests.respond misspelledForm .new ∧
      ∀ session, forTests.Returns misspelledForm session (.text "Sign in") ∧
        forTests.Returns (misspelledJson "<b>") session (.text "<b>") := by
  have hform : misspelledForm.SendsForm "/" "admin" "Sign in" := ⟨rfl, rfl, rfl⟩
  have hresembles : misspelledForm.Resembles (misspelledJson "<b>") :=
    ⟨rfl, rfl, rfl, rfl, rfl, by decide +kernel⟩
  have hsubmits : forTests.Submits misspelledForm (.text "admin") (.text "Sign in") := by
    obtain ⟨payload, hpayload, hread⟩ := hform.fillsForm.payload .null
    refine ⟨by decide +kernel, ?_, payload, .null, hpayload, hread⟩
    rw [tooLong_of_fillsForm isUsual_forTests hform.fillsForm]
    decide +kernel
  have hs : (Settings.forTests.withPair "admin" "correct").site = .ok forTests := rfl
  obtain ⟨hsame, hreturns, _, _⟩ := respond_of_resembles hs hresembles hsubmits
    submits_misspelledJson (by simp) (by simp) .new
  exact ⟨hsame rfl, hreturns rfl rfl⟩

/-- So not all wrong passwords are turned down alike: half of a surrogate pair is a fault, and nothing
is logged. -/
theorem respond_tells_password :
    (misspelledJson "<b>").Resembles (misspelledJson "\\ud800") ∧
      forTests.Submits (misspelledJson "<b>") (.text "admin") (.text "<b>") ∧
      forTests.Submits (misspelledJson "\\ud800") (.text "admin") (.ragged .loneHalf) ∧
      (forTests.respond (misspelledJson "<b>") .new).log.map Event.message =
        ["Invalid dashboard credentials from 127.0.0.1"] ∧
      (forTests.respond (misspelledJson "\\ud800") .new).log = [] ∧
      ∀ response, (forTests.respond (misspelledJson "\\ud800") .new).result ≠ .ok response := by
  have hread : ((misspelledJson "\\ud800").payload.toOption.bind fun payload =>
      (Submission.ofPayload payload .null).toOption).map
        (fun s => (s.username.points?, s.password.points?)) =
        some (some ("admin".toList.map .char), some [.half 0xD800 rfl]) := by
    decide +kernel
  have hsubmits : forTests.Submits (misspelledJson "\\ud800")
      (.ofPoints ("admin".toList.map .char)) (.ofPoints [.half 0xD800 rfl]) :=
    submits_of_read (by decide +kernel) (ok_of_toOption (by decide +kernel)) hread
  rw [Datum.ofPoints_chars, String.ofList_toList] at hsubmits
  have hnone : (forTests.respond (misspelledJson "\\ud800") .new).result.toOption.isNone := by
    decide +kernel
  refine ⟨⟨rfl, rfl, rfl, rfl, rfl, by decide +kernel⟩, submits_misspelledJson, hsubmits,
    by decide +kernel, by decide +kernel, fun response hok => ?_⟩
  rw [hok] at hnone
  cases hnone

end Site

end Gatehouse
