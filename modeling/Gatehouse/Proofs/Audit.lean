import Gatehouse.Proofs.Checked
import Gatehouse.Proofs.History
import Gatehouse.Proofs.Home

namespace Gatehouse

namespace Event

/-- What is written of an event. -/
def line (e : Event) : Level × String := (e.level, e.message)

theorem append_ne_append {s t : String} {i : Nat} (hs : i < s.toList.length)
    (ht : i < t.toList.length) (h : s.toList[i]? ≠ t.toList[i]?) (u v : String) :
    s ++ u ≠ t ++ v := by
  intro he
  have hat := congrArg (fun r => r.toList[i]?) he
  simp only [String.toList_append] at hat
  rw [List.getElem?_append_left hs, List.getElem?_append_left ht] at hat
  exact h hat

theorem line_login_ne_logout (o p : Value) : (login o).line ≠ (logout p).line := by
  intro h
  have hmessage : "Dashboard login from " ++ o.toText = "Dashboard logout from " ++ p.toText :=
    (Prod.mk.inj h).2
  have hdiffer : "Dashboard login from ".toList[13]? ≠ "Dashboard logout from ".toList[13]? := by
    decide +kernel
  exact append_ne_append (by decide +kernel) (by decide +kernel) hdiffer _ _ hmessage

theorem line_malformed_ne_rejected (o p : Value) (flaw : Flaw) :
    (malformed o flaw).line ≠ (rejected p).line := by
  intro h
  have hmessage : "Rejected malformed login payload from " ++ o.toText ++ ": " ++ flaw.message =
      "Invalid dashboard credentials from " ++ p.toText := (Prod.mk.inj h).2
  rw [String.append_assoc, String.append_assoc] at hmessage
  have hdiffer : "Rejected malformed login payload from ".toList[0]? ≠
      "Invalid dashboard credentials from ".toList[0]? := by decide +kernel
  exact append_ne_append (by decide +kernel) (by decide +kernel) hdiffer _ _ hmessage

theorem line_ne_of_level {e f : Event} (h : e.level ≠ f.level) : e.line ≠ f.line :=
  fun he => h (Prod.mk.inj he).1

end Event

/-- How many lines of a log are the one that is written of an event. -/
def timesLogged (log : List Event) (e : Event) : Nat := (log.map Event.line).count e.line

section Counts

variable {e f : Event}

theorem timesLogged_append (log more : List Event) (e : Event) :
    timesLogged (log ++ more) e = timesLogged log e + timesLogged more e := by
  simp [timesLogged]

@[simp] theorem timesLogged_nil (e : Event) : timesLogged [] e = 0 := rfl

theorem timesLogged_self (e : Event) : timesLogged [e] e = 1 := by
  simp [timesLogged]

theorem timesLogged_of_ne (h : f.line ≠ e.line) : timesLogged [f] e = 0 := by
  simp [timesLogged, h]

theorem timesLogged_failures {failures : List Event} (h : ∀ f ∈ failures, f.level = .error)
    (he : e.level ≠ .error) : timesLogged failures e = 0 := by
  refine List.count_eq_zero.mpr fun hm => ?_
  obtain ⟨f, hf, hline⟩ := List.mem_map.mp hm
  exact he ((Prod.mk.inj hline).1.symm.trans (h f hf))

end Counts

namespace Site

variable {site : Site} {request : Request} {b : Browser} {pair : String × String}

section Log

theorem log_send (response : Response) (orders : List Cookie.Order) (log : List Event) :
    (send response orders b log).log = log := by
  unfold send
  split
  next => rfl
  next => rfl
  next => rfl

theorem log_afterFault (fault : Fault) (session : Session) (written : Bool) (log : List Event) :
    ∃ failures, (site.afterFault request b fault session written log).log = log ++ failures ∧
      ∀ f ∈ failures, f.level = .error := by
  unfold afterFault
  split
  next => exact ⟨[], (List.append_nil log).symm, by simp⟩
  next =>
    dsimp only
    split
    next =>
      rw [log_send]
      exact ⟨_, rfl, by simp [Event.level]⟩
    next =>
      rw [failureLog, List.append_assoc]
      exact ⟨_, rfl, by simp [Event.level]⟩

theorem log_conclude (site : Site) (request : Request) (b : Browser) (reply : Reply Response) :
    ∃ failures, (site.conclude request b reply).log = reply.log ++ failures ∧
      ∀ f ∈ failures, f.level = .error := by
  unfold conclude
  split
  next => exact log_afterFault _ _ _ _
  next =>
    split
    next =>
      rw [log_send]
      exact ⟨[], (List.append_nil _).symm, by simp⟩
    next => exact log_afterFault _ _ _ _

end Log

section Lines

variable (site request pair)

theorem timesLogged_loginLog_login :
    timesLogged (site.loginLog request pair) (.login request.origin) =
      if site.formPair? request = some pair then 1 else 0 := by
  rcases site.loginLog_cases request pair with ⟨hlog, hpair⟩ | ⟨flaw, hlog, hpair⟩ |
    ⟨hlog, hpair⟩ | ⟨other, hne, hlog, hpair⟩
  · rw [hlog, hpair]
    rfl
  · rw [hlog, hpair, timesLogged_of_ne (Event.line_ne_of_level (by simp [Event.level]))]
    rfl
  · rw [hlog, hpair, timesLogged_self, if_pos rfl]
  · rw [hlog, hpair, timesLogged_of_ne (Event.line_ne_of_level (by simp [Event.level])),
      if_neg (by simpa using hne)]

theorem timesLogged_loginLog_rejected :
    timesLogged (site.loginLog request pair) (.rejected request.origin) =
      ((site.formPair? request).toList.filter fun other => other ≠ pair).length := by
  rcases site.loginLog_cases request pair with ⟨hlog, hpair⟩ | ⟨flaw, hlog, hpair⟩ |
    ⟨hlog, hpair⟩ | ⟨other, hne, hlog, hpair⟩
  · rw [hlog, hpair]
    rfl
  · rw [hlog, hpair, timesLogged_of_ne (Event.line_malformed_ne_rejected _ _ _)]
    rfl
  · rw [hlog, hpair, timesLogged_of_ne (Event.line_ne_of_level (by simp [Event.level]))]
    simp
  · rw [hlog, hpair, timesLogged_self]
    simp [hne]

theorem timesLogged_loginLog_logout :
    timesLogged (site.loginLog request pair) (.logout request.origin) = 0 := by
  rcases site.loginLog_cases request pair with ⟨hlog, _⟩ | ⟨flaw, hlog, _⟩ | ⟨hlog, _⟩ |
    ⟨other, _, hlog, _⟩
  · rw [hlog]
    rfl
  · rw [hlog, timesLogged_of_ne (Event.line_ne_of_level (by simp [Event.level]))]
  · rw [hlog, timesLogged_of_ne (Event.line_login_ne_logout _ _)]
  · rw [hlog, timesLogged_of_ne (Event.line_ne_of_level (by simp [Event.level]))]

theorem logoutLog_cases (session : Session) :
    site.logoutLog request session = [] ∨
      site.logoutLog request session = [.logout request.origin] := by
  unfold logoutLog
  split
  next =>
    split
    next => exact Or.inl rfl
    next => exact Or.inl rfl
    next => exact Or.inr rfl
  next => exact Or.inl rfl

theorem timesLogged_logoutLog_of_ne {e : Event} (h : (Event.logout request.origin).line ≠ e.line)
    (session : Session) : timesLogged (site.logoutLog request session) e = 0 := by
  rcases site.logoutLog_cases request session with hlog | hlog
  · rw [hlog]
    rfl
  · rw [hlog, timesLogged_of_ne h]

theorem timesLogged_logoutLog_logout {session : Session} (h : session.IsStandard site) :
    timesLogged (site.logoutLog request session) (.logout request.origin) =
      if site.endpoint? request = some .logout ∧ (session.get? recordKey).isSome then 1 else 0 := by
  unfold logoutLog
  by_cases he : site.endpoint? request = some .logout
  · rw [if_pos he]
    cases hr : session.get? recordKey with
    | none => simp
    | some v =>
      obtain ⟨u, p, _, rfl⟩ := h v hr
      simp [loginRecord, Value.ofFields, he, timesLogged_self]
  · rw [if_neg he, if_neg (fun hlogout => he hlogout.1)]
    rfl

end Lines

/-- What the header of a request has checked, with the session that its browser has at the host. -/
def headerPairOf? (site : Site) (request : Request) (b : Browser) (pair : String × String) :
    Option (String × String) :=
  site.headerPair? ⟨request, b.shownAt request.address⟩ (b.sessionAt request.address.cookieHost)
    pair

/-- The pairs that a request has checked, each way it may carry one. -/
def checkedPairs (site : Site) (request : Request) (b : Browser) (pair : String × String) :
    List (String × String) :=
  (site.formPair? request).toList ++ (site.headerPairOf? request b pair).toList

def recordBefore (request : Request) (b : Browser) : Option Value :=
  (b.sessionAt request.address.cookieHost).get? recordKey

def recordAfter (site : Site) (request : Request) (b : Browser) : Option Value :=
  ((site.respond request b).browser.sessionAt request.address.cookieHost).get? recordKey

/-- What a request does to the record is in the log, and so is what it has checked: a line for a record
that is gained or a login that is accepted, one for each wrong pair, one for a record that is lost, and
none of these lines without its cause. -/
structure IsAudited (site : Site) (pair : String × String) (request : Request) (b : Browser) :
    Prop where
  logins : timesLogged (site.respond request b).log (.login request.origin) =
    if site.formPair? request = some pair ∨
        recordBefore request b = none ∧ (site.recordAfter request b).isSome then 1 else 0
  rejections : timesLogged (site.respond request b).log (.rejected request.origin) =
    ((site.checkedPairs request b pair).filter fun other => other ≠ pair).length
  logouts : timesLogged (site.respond request b).log (.logout request.origin) =
    if (recordBefore request b).isSome ∧ site.recordAfter request b = none then 1 else 0

section Own

variable (h : site.settings.IsUsual) (ho : b.IsOwn site) (ha : request.address.IsRooted)
  {standing : Except Denial String} (hs : site.standing request.address = .ok standing)
include h ho ha hs

theorem recordAfter_cases : site.recordAfter request b = recordBefore request b ∨
    site.recordAfter request b = (site.replyTo request b standing).session.get? recordKey := by
  have hstandard := Session.isStandard_of_changes (through_replyTo h request b standing).changes
    (ho.standard _)
  exact get?_of_respond h ho.usual ha hs (by decide) fun v hv => hstandard.stored hv

theorem recordAfter_of_made {made sent : Response}
    (hmade : (site.replyTo request b standing).result = .ok made)
    (hsealed : made.sealed = .ok sent) :
    site.recordAfter request b = (site.replyTo request b standing).session.get? recordKey := by
  have hplain := isPlain_replyTo h request (ho.plain _) standing
  obtain ⟨_, hleft⟩ := respond_of_remember h ho.usual ha hs hmade hsealed fun order horder => by
    simp [hplain.unordered] at horder
  exact record_of_answered h ho hleft

variable (hconf : site.gate.configured = ⟨.text pair.1, .text pair.2⟩)
include hconf

theorem timesLogged_respond {e : Event} (he : e.level ≠ .error) :
    timesLogged (site.respond request b).log e =
      timesLogged (site.loginLog request pair) e +
        timesLogged (site.logoutLog request (b.sessionAt request.address.cookieHost)) e := by
  obtain ⟨failures, hlog, hfailures⟩ := site.log_conclude request b
    (site.replyTo request b standing)
  have hreply : (site.replyTo request b standing).log = site.loginLog request pair ++
      site.logoutLog request (b.sessionAt request.address.cookieHost) :=
    log_answer _ _ hs h hconf
  rw [respond_eq_conclude h ho.usual ha hs, hlog, hreply, timesLogged_append, timesLogged_append,
    timesLogged_failures hfailures he, Nat.add_zero]

omit ho ha in
theorem get?_replyTo : (site.replyTo request b standing).session.get? recordKey =
    if site.endpoint? request = some .logout then none
    else if site.formPair? request = some pair ∨ site.headerPairOf? request b pair = some pair then
      some (loginRecord (.text pair.1))
    else recordBefore request b :=
  get?_answer ⟨request, b.shownAt request.address⟩ _ hs h hconf

theorem recordAfter_of_logout (hexit : site.gate.exit = .text "/login")
    (he : site.endpoint? request = some .logout) : site.recordAfter request b = none := by
  have hmade : (site.replyTo request b standing).result = .ok (.redirect "/login") := by
    unfold replyTo
    rw [answer_of_endpoint ⟨request, b.shownAt request.address⟩ _ hs he]
    exact logout_ok h hexit (ho.plain _)
  have hsealed : (Response.redirect "/login").sealed = .ok (.redirect "/login") :=
    ok_of_toOption (by decide +kernel)
  rw [recordAfter_of_made h ho ha hs hmade hsealed, get?_replyTo h hs hconf, if_pos he]

/-- The right pair in the header leaves a record where there was none. -/
theorem gained_of_headerPair (hv : site.headerPairOf? request b pair = some pair) :
    recordBefore request b = none ∧
      site.recordAfter request b = some (loginRecord (.text pair.1)) := by
  have hheader : site.headerPair? ⟨request, b.shownAt request.address⟩
      (b.sessionAt request.address.cookieHost) pair = some pair := hv
  obtain ⟨hasks, hvouched⟩ := asks_of_headerPair hheader
  obtain ⟨hlogout, _⟩ := not_accepted_of_asksVisitor hasks
  obtain ⟨_, hnone, _⟩ := visitor_eq_identify h hvouched
  obtain ⟨status, page, sent, hmade⟩ := page_of_headerPair
    ⟨request, b.shownAt request.address⟩ _ hs h hconf (ho.plain _) hheader
  have hsealed : (Response.page status page sent).sealed = .ok (.page status page sent) := rfl
  constructor
  · cases hr : (b.sessionAt request.address.cookieHost).get? recordKey with
    | none => exact hr
    | some v =>
      obtain ⟨u, p, _, rfl⟩ := ho.standard _ v hr
      rw [Session.username?_of_loginRecord hr] at hnone
      simp at hnone
  · rw [recordAfter_of_made h ho ha hs hmade hsealed, get?_replyTo h hs hconf, if_neg hlogout,
      if_pos (Or.inr hv)]

/-- The record is lost by a logout alone. -/
theorem lost_iff (hexit : site.gate.exit = .text "/login") :
    (recordBefore request b).isSome ∧ site.recordAfter request b = none ↔
      site.endpoint? request = some .logout ∧ (recordBefore request b).isSome := by
  constructor
  · rintro ⟨hbefore, hafter⟩
    refine ⟨?_, hbefore⟩
    by_contra hlogout
    rcases recordAfter_cases h ho ha hs with hsame | hreply
    · rw [← hsame, hafter] at hbefore
      simp at hbefore
    · rw [hafter, get?_replyTo h hs hconf, if_neg hlogout] at hreply
      split at hreply
      next => simp at hreply
      next =>
        rw [← hreply] at hbefore
        simp at hbefore
  · rintro ⟨he, hbefore⟩
    exact ⟨hbefore, recordAfter_of_logout h ho ha hs hconf hexit he⟩

theorem accepted_of_gained (hgained : recordBefore request b = none ∧
    (site.recordAfter request b).isSome) :
    site.formPair? request = some pair ∨ site.headerPairOf? request b pair = some pair := by
  obtain ⟨hbefore, hafter⟩ := hgained
  rcases recordAfter_cases h ho ha hs with hsame | hreply
  · rw [hsame, hbefore] at hafter
    simp at hafter
  · rw [hreply, get?_replyTo h hs hconf] at hafter
    split at hafter
    next => simp at hafter
    next =>
      split at hafter
      next haccepted => exact haccepted
      next =>
        rw [hbefore] at hafter
        simp at hafter

/-- The log is complete just if no pair in the header is checked. -/
theorem isAudited_iff_of_isOwn (hexit : site.gate.exit = .text "/login") :
    site.IsAudited pair request b ↔ site.headerPairOf? request b pair = none := by
  have hlogins := timesLogged_respond h ho ha hs hconf (e := .login request.origin)
    (by simp [Event.level])
  have hrejections := timesLogged_respond h ho ha hs hconf (e := .rejected request.origin)
    (by simp [Event.level])
  have hlogouts := timesLogged_respond h ho ha hs hconf (e := .logout request.origin)
    (by simp [Event.level])
  rw [timesLogged_loginLog_login, timesLogged_logoutLog_of_ne _ _
    (Ne.symm (Event.line_login_ne_logout _ _)), Nat.add_zero] at hlogins
  rw [timesLogged_loginLog_rejected, timesLogged_logoutLog_of_ne _ _
    (Event.line_ne_of_level (by simp [Event.level])), Nat.add_zero] at hrejections
  rw [timesLogged_loginLog_logout, timesLogged_logoutLog_logout _ _ (ho.standard _),
    Nat.zero_add] at hlogouts
  constructor
  · intro haudited
    cases hv : site.headerPairOf? request b pair with
    | none => rfl
    | some other =>
      exfalso
      by_cases hright : other = pair
      · subst hright
        obtain ⟨hbefore, hafter⟩ := gained_of_headerPair h ho ha hs hconf hv
        obtain ⟨_, hform⟩ := not_accepted_of_asksVisitor (asks_of_headerPair hv).1
        have hcount := haudited.logins
        rw [hlogins, if_neg hform, if_pos (Or.inr ⟨hbefore, by simp [hafter]⟩)] at hcount
        simp at hcount
      · have hcount := haudited.rejections
        rw [hrejections, checkedPairs, hv, List.filter_append, List.length_append] at hcount
        simp [hright] at hcount
  · intro hv
    refine ⟨?_, ?_, ?_⟩
    · rw [hlogins]
      refine if_congr ⟨Or.inl, fun hevent => ?_⟩ rfl rfl
      rcases hevent with haccepted | hgained
      · exact haccepted
      · exact (accepted_of_gained h ho ha hs hconf hgained).resolve_right (by simp [hv])
    · rw [hrejections, checkedPairs, hv]
      simp
    · rw [hlogouts]
      exact if_congr (lost_iff h ho ha hs hconf hexit).symm rfl rfl

end Own

/-- Whatever has been sent before, the log tells of all that a request does and has checked just if it
has no pair in its header checked. Where it has one checked, a line is missing: that of the record it
leaves, or that of the wrong pair. -/
theorem isAudited_iff {s : Settings} (hu : s.IsUsual) (hs : s.site = .ok site)
    {username password : String} (hname : s.username = .text username)
    (hpass : s.password = .text password) (past : List Sending) (client : String)
    {message : Message} {address : String}
    (hsent : message.sentTo s.base address = .ok request) :
    let visitor := (site.browsers past).getD client .new
    site.IsAudited (username, password) request visitor ↔
      site.headerPairOf? request visitor (username, password) = none := by
  obtain ⟨rfl, hconf, _, hexit⟩ := site_eq_ok hs
  rw [hname, hpass] at hconf
  exact isAudited_iff_of_isOwn hu (isOwn_browsers hu past client) (isRooted_of_sentTo hu hsent)
    (standing_of_isUsual hu request.address) hconf hexit

/-- Leaving is logged also for a visitor who came in by the header. -/
theorem isAudited_logout :
    let leave : Message := { vouched with authorization := none }
    leave.sentTo Settings.forTests.base "/logout" = .ok { leave with address := home "/logout" } ∧
      forTests.IsAudited ("admin", "correct") { leave with address := home "/logout" }
        ((forTests.browsers [⟨"visitor", "/", vouched⟩]).getD "visitor" .new) := by
  intro leave
  have hsent : leave.sentTo Settings.forTests.base "/logout" =
      .ok { leave with address := home "/logout" } :=
    sentTo_eq_ok (ok_of_toOption (by decide +kernel)) (by decide +kernel)
  exact ⟨hsent, (isAudited_iff isUsual_forTests site_forTests rfl rfl
    [⟨"visitor", "/", vouched⟩] "visitor" hsent).mpr (by decide +kernel)⟩

/-- But coming in by the header is not. -/
theorem not_isAudited_vouched :
    let request : Request := { vouched with address := home "/" }
    vouched.sentTo Settings.forTests.base "/" = .ok request ∧
      (forTests.respond request .new).log = [] ∧
      recordBefore request .new = none ∧
      forTests.recordAfter request .new = some (loginRecord (.text "admin")) ∧
      ¬ forTests.IsAudited ("admin", "correct") request .new := by
  intro request
  have hsent : vouched.sentTo Settings.forTests.base "/" = .ok request :=
    sentTo_eq_ok (ok_of_toOption (by decide +kernel)) (by decide +kernel)
  have hlog : (forTests.respond request .new).log = [] :=
    List.isEmpty_iff.mp (by decide +kernel)
  have hvouched : forTests.headerPairOf? request .new ("admin", "correct") =
      some ("admin", "correct") := by
    decide +kernel
  obtain ⟨hbefore, hafter⟩ := gained_of_headerPair isUsual_forTests (Browser.isOwn_new forTests)
    (isRooted_of_home rfl) (standing_of_isUsual isUsual_forTests request.address) rfl hvouched
  refine ⟨hsent, hlog, hbefore, hafter, fun haudited => ?_⟩
  have hlogins := haudited.logins
  rw [hlog, if_pos (Or.inr ⟨hbefore, by rw [hafter]; rfl⟩)] at hlogins
  simp at hlogins

end Site

end Gatehouse
