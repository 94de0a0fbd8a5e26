import Gatehouse.Proofs.Turn

namespace Gatehouse

open Relation (ReflTransGen)

namespace Session

variable {s t : Session}

theorem username?_eq_some_iff {username : String} : s.username? = some username ↔
    ∃ entries, s.get? recordKey = some (.map entries) ∧
      Value.lookupText "authenticated" entries = some (.bool true) ∧
      Value.lookupText "username" entries = some (.text username) := by
  constructor
  · intro h
    obtain ⟨v, hv, hname⟩ := Option.bind_eq_some_iff.mp h
    obtain ⟨record, hrecord, hfield⟩ := Option.bind_eq_some_iff.mp hv
    unfold record? at hrecord
    split at hrecord
    next entries hentries =>
      split at hrecord
      next name hmark hfound =>
        obtain rfl := Option.some.inj hrecord
        obtain rfl := Option.some.inj (hfound.symm.trans hfield)
        obtain rfl := Option.some.inj hname
        exact ⟨entries, hentries, hmark, hfound⟩
      next => simp at hrecord
    next => simp at hrecord
  · rintro ⟨entries, hentries, hmark, hname⟩
    have hrecord : s.record? = some (.map entries) := by
      simp only [record?, hentries, hmark, hname]
    simp [username?, hrecord, Value.field?, hname, Value.text?]

/-- A cookie makes no valid record out of one that is not valid. -/
theorem IsKeyed.username?_kept (h : s.IsKeyed) (hnone : s.username? = none) :
    s.kept.username? = none := by
  rw [Option.eq_none_iff_forall_ne_some] at hnone ⊢
  intro username hkept
  obtain ⟨kept, hget, hmark, hname⟩ := username?_eq_some_iff.mp hkept
  rw [h.get?_kept] at hget
  obtain ⟨v, hv, hstored⟩ := Option.bind_eq_some_iff.mp hget
  have hvk := h.get? hv
  obtain ⟨w, hw, halike, _⟩ := Value.exists_stored hvk
  rw [hw] at hstored
  obtain rfl := Option.some.inj hstored
  obtain ⟨entries, rfl⟩ : ∃ entries, v = .map entries := by
    cases halike with
    | refl => exact ⟨kept, rfl⟩
    | map => exact ⟨_, rfl⟩
  obtain ⟨mark, hbefore, hm⟩ := Value.exists_alike_of_stored hvk hw hmark
  obtain ⟨name, hnamed, hn⟩ := Value.exists_alike_of_stored hvk hw hname
  cases hm
  cases hn
  exact hnone username (username?_eq_some_iff.mpr ⟨entries, hv, hbefore, hnamed⟩)

theorem username?_of_changes {site : Site} {request : Request}
    (h : ReflTransGen (Change site request) s t) (hc : ∀ u p, ¬ site.Carries request u p)
    (hnone : s.username? = none) : t.username? = none := by
  rcases record_of_changes h with hsame | ⟨u, p, hcarries, _⟩ | ⟨_, hr⟩
  · rw [username?_congr hsame, hnone]
  · exact absurd hcarries (hc u p)
  · exact username?_eq_none_iff.mpr (by simp only [record?, hr])

end Session

namespace Browser

variable {b : Browser} {host : String}

/-- The token that counts at a host. -/
def heeded? (b : Browser) (host : String) : Option Carried :=
  if (b.sessionAt host).heedsToken then
    (Cookie.get? (Cookie.tokenKey host) b.cookies).map Cookie.carried
  else none

theorem heeded?_of_tokenless (h : Cookie.get? (Cookie.tokenKey host) b.cookies = none) :
    b.heeded? host = none := by
  unfold heeded?
  split
  next => rw [h, Option.map_none]
  next => rfl

/-- The session at a host once it was asked who the visitor is, if there is no record. -/
def met (b : Browser) (host : String) : Session :=
  match b.heeded? host with
  | some (.token visitor) => (b.sessionAt host).withToken visitor
  | _ => b.sessionAt host

/-- The only token that a usual browser may have is one of the site. -/
theorem IsUsual.heeded?_cases (h : b.IsUsual) :
    b.heeded? host = none ∨ ∃ visitor, b.heeded? host = some (.token visitor) := by
  unfold heeded?
  split
  next =>
    cases hc : Cookie.get? (Cookie.tokenKey host) b.cookies with
    | none => exact Or.inl rfl
    | some c =>
      obtain ⟨hmem, hkey⟩ := Cookie.mem_of_get? hc
      have hcname := congrArg CookieKey.name hkey
      cases h c hmem with
      | session => exact absurd hcname (by simp [Cookie.sessionKey, Cookie.tokenKey])
      | forged => exact absurd hcname (by simp [Cookie.sessionKey, Cookie.tokenKey])
      | token host visitor => exact Or.inr ⟨visitor, rfl⟩
  next => exact Or.inl rfl

end Browser

/-- A visitor without a valid record at a host, whose session is one that the site could have made
but for that record. -/
structure Browser.IsStranger (b : Browser) (host : String) : Prop where
  usual : b.IsUsual
  plain : (b.sessionAt host).IsPlain
  unknown : (b.sessionAt host).username? = none

theorem Browser.isStranger_new (host : String) : Browser.new.IsStranger host where
  usual := isUsual_new
  plain := Session.isPlain_empty
  unknown := rfl

namespace Site

variable {site : Site} {request : Request} {b : Browser}

theorem not_carries (ha : request.authorization = none)
    (hroute : Route.of (site.asked request) request.path ≠ .endpoint .submitLogin)
    (u p : String) : ¬ site.Carries request u p := by
  rintro (⟨hsubmit, _⟩ | hpair)
  · exact hroute hsubmit
  · rw [Request.basicPair?, ha] at hpair
    simp at hpair

/-- Who carries no pair stays a stranger. -/
theorem isStranger_of_respond (h : site.settings.IsUsual)
    (hb : b.IsStranger request.address.cookieHost) (ha : request.address.IsRooted)
    (hc : ∀ u p, ¬ site.Carries request u p) :
    (site.respond request b).browser.IsStranger request.address.cookieHost := by
  rcases respond_becomes h hb.usual ha with hsame | ⟨standing, _, hbecomes⟩
  · rwa [hsame]
  rcases hbecomes.here with hsame | hkept
  · rwa [hsame]
  have hthrough := through_replyTo h request b standing
  have hplain := isPlain_replyTo h request hb.plain standing
  refine ⟨hbecomes.isUsual, ?_, ?_⟩
  · rw [hkept]
    exact (hplain.erase _).kept
  · rw [hkept]
    apply (hplain.erase _).keyed.username?_kept
    rw [Session.username?_congr (Session.get?_erase_of_ne (by decide) _)]
    exact Session.username?_of_changes hthrough.changes hc hb.unknown

theorem mark_of_origin {origin : String} (ho : request.origin = .text origin) :
    ∃ mark, request.mark = .ok mark := by
  have horigin : ∃ cs, request.originText = .ok cs := by
    simp only [Request.originText, ho, Except.ok.injEq, exists_eq']
  obtain ⟨cs, hcs⟩ := horigin
  simp only [Request.mark, hcs, Except.map, Except.ok.injEq, exists_eq']

theorem token?_of_isUsual (h : site.settings.IsUsual) (hb : b.IsUsual)
    (ha : request.address.IsRooted) :
    site.token? (b.shownAt request.address) (b.sessionAt request.address.cookieHost) =
      .ok (b.heeded? request.address.cookieHost) := by
  have hname : site.settings.tokenCookie.name = .text "remember_token" :=
    h.same (fun s => s.tokenCookie.name) fun _ _ _ _ _ => rfl
  have hcheck : checkKey (.text "remember_token") = .ok () := rfl
  rw [token?, hname, hcheck, Browser.shownAt, Cookie.carried?_filter hb ha]
  rfl

/-- Where no token counts, visitors are asked for a record and then for a pair. -/
theorem visitor_of_unheeded (h : site.settings.IsUsual) (hb : b.IsUsual)
    (ha : request.address.IsRooted) (htoken : b.heeded? request.address.cookieHost = none)
    {mark : String} (hmark : request.mark = .ok mark) :
    site.visitor ⟨request, b.shownAt request.address⟩ (b.sessionAt request.address.cookieHost) =
      site.identify request (b.sessionAt request.address.cookieHost) := by
  have htrusted : site.visitor ⟨request, b.shownAt request.address⟩
      (b.sessionAt request.address.cookieHost) = site.trustedVisitor
        ⟨request, b.shownAt request.address⟩ (b.sessionAt request.address.cookieHost) :=
    visitor_of_isUsual h hmark
  rw [htrusted, trustedVisitor, token?_of_isUsual h hb ha, htoken]

theorem visitor_of_unknown (h : site.settings.IsUsual) (hb : b.IsUsual)
    (hunknown : (b.sessionAt request.address.cookieHost).username? = none)
    (ha : request.address.IsRooted) {origin : String} (ho : request.origin = .text origin)
    (hauth : request.authorization = none) :
    ∃ written, site.visitor ⟨request, b.shownAt request.address⟩
        (b.sessionAt request.address.cookieHost) =
      ⟨.ok none, b.met request.address.cookieHost, written, []⟩ := by
  obtain ⟨mark, hmark⟩ := mark_of_origin ho
  have htrusted : site.visitor ⟨request, b.shownAt request.address⟩
      (b.sessionAt request.address.cookieHost) = site.trustedVisitor
        ⟨request, b.shownAt request.address⟩ (b.sessionAt request.address.cookieHost) :=
    visitor_of_isUsual h hmark
  rw [htrusted, trustedVisitor, token?_of_isUsual h hb ha, Browser.met]
  rcases hb.heeded?_cases with hnone | ⟨visitor, htoken⟩
  · rw [hnone]
    refine ⟨false, ?_⟩
    simp only [identify, hunknown, Request.basicPair?, hauth]
    rfl
  · rw [htoken]
    exact ⟨true, rfl⟩

theorem visitor_of_stranger (h : site.settings.IsUsual)
    (hb : b.IsStranger request.address.cookieHost) (ha : request.address.IsRooted)
    {origin : String} (ho : request.origin = .text origin) (hauth : request.authorization = none) :
    (site.visitor ⟨request, b.shownAt request.address⟩
      (b.sessionAt request.address.cookieHost)).result = .ok none := by
  obtain ⟨written, hvisitor⟩ := visitor_of_unknown h hb.usual hb.unknown ha ho hauth
  rw [hvisitor]

theorem unguarded_of_isUsual (h : site.settings.IsUsual) :
    site.settings.unguarded.truthy = false :=
  h.same (fun s => s.unguarded.truthy) fun _ _ _ _ _ => rfl

/-- A stranger who asks for the dashboard is sent to the login page. -/
theorem dashboard_of_stranger (h : site.settings.IsUsual)
    (hb : b.IsStranger request.address.cookieHost) (ha : request.address.IsRooted)
    {origin : String} (ho : request.origin = .text origin) (hauth : request.authorization = none) :
    (site.dashboard ⟨request, b.shownAt request.address⟩
      (b.sessionAt request.address.cookieHost)).result = loginDetour request := by
  rw [dashboard, Reply.andThen_of_ok (visitor_of_stranger h hb ha ho hauth)]
  simp [unguarded_of_isUsual h]

/-- A stranger who asks for the login page is shown a form that remembers the target. -/
theorem loginForm_of_stranger (h : site.settings.IsUsual)
    (hb : b.IsStranger request.address.cookieHost) (ha : request.address.IsRooted)
    {origin : String} (ho : request.origin = .text origin) (hauth : request.authorization = none)
    {target : String} (ht : request.queryTarget? = some target) (hne : target ≠ "") :
    ∃ notices, (site.loginForm ⟨request, b.shownAt request.address⟩
      (b.sessionAt request.address.cookieHost)).result =
        .ok (.page 200 ⟨request.address.root, notices, .login none (some target) ""⟩
          !request.wantsHead) := by
  have hplain : (site.visitor ⟨request, b.shownAt request.address⟩
      (b.sessionAt request.address.cookieHost)).session.IsPlain :=
    Session.isPlain_of_changes
      (ReflTransGen.mono (fun _ _ => Session.Change.viewed) _ _ (through_visitor h).changes)
      hb.plain
  obtain ⟨notices, hnotices⟩ := hplain.takeNotices_ok
  have htruthy : (Value.text target).truthy = true := by simpa [Value.truthy] using hne
  have hcontent : loginContent (.fresh (Value.ofText? (some target))) =
      .login none (some target) "" := by
    simp only [loginContent, FormView.fresh, FormView.make, Value.ofText?, shownText, htruthy]
    rfl
  refine ⟨notices, ?_⟩
  rw [loginForm, showLoginPage, Reply.andThen_of_ok (visitor_of_stranger h hb ha ho hauth)]
  simp only [ht, hcontent]
  rw [showPage, Reply.result_map, hnotices]
  rfl

end Site

end Gatehouse
