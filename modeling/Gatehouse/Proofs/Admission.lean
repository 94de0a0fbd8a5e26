import Gatehouse.Proofs.Exchange
import Gatehouse.Proofs.Redirect

namespace Gatehouse

theorem Response.status_of_sealed {r sent : Response} (h : r.sealed = .ok sent) :
    sent.status = r.status := by
  unfold sealed at h
  split at h
  next =>
    obtain ⟨_, _, rfl⟩ := map_eq_ok_iff.mp h
    rfl
  next =>
    obtain ⟨_, _, rfl⟩ := map_eq_ok_iff.mp h
    rfl
  next => rw [Except.ok.inj h]

theorem Denial.status_ne (denial : Denial) : denial.status ≠ 302 ∧ denial.status ≠ 200 := by
  cases denial <;> simp [status]

namespace Site

variable {site : Site} {request : Request} {visit : Visit} {session : Session}

/-- A login was submitted and the visitor sent on, or the dashboard was asked for and shown. -/
def Admits (site : Site) (request : Request) (response : Response) : Prop :=
  Route.of (site.asked request) request.path = .endpoint .submitLogin ∧ response.status = 302 ∨
    Route.of (site.asked request) request.path = .endpoint .dashboard ∧ response.status = 200

/-- The logout was asked for and the visitor sent on. -/
def Dismisses (site : Site) (request : Request) (response : Response) : Prop :=
  Route.of (site.asked request) request.path = .endpoint .logout ∧ response.status = 302

theorem status_of_deny {denial : Denial} {response : Response}
    (h : site.deny request denial = .ok response) : response.status = denial.status := by
  unfold deny at h
  split at h
  next => simp at h
  next => rw [checked_eq_ok h]; rfl

theorem deny_of_isUsual (h : site.settings.IsUsual) {denial : Denial}
    (hm : ∀ location, denial ≠ .moved location) (request : Request) :
    site.deny request denial = .ok (.denied denial !request.wantsHead) := by
  have htraps : site.traps denial = false :=
    h.same (fun s => Site.traps ⟨site.gate, s⟩ denial) fun _ _ _ _ _ => rfl
  rw [deny, htraps]
  cases denial with
  | moved location => exact absurd rfl (hm location)
  | _ => rfl

theorem status_of_showPage {status : Nat} {content : Content} {response : Response}
    (h : (showPage request session status content).result = .ok response) :
    response.status = status := by
  obtain ⟨_, _, rfl⟩ := map_eq_ok_iff.mp h
  rfl

theorem status_of_showLoginPage {status : Nat} {view : FormView} {response : Response}
    (h : (site.showLoginPage visit session status view).result = .ok response) :
    response.status = status := by
  obtain ⟨_, _, hp⟩ := Reply.result_andThen_eq_ok_iff.mp h
  exact status_of_showPage hp

theorem record_of_submitLogin (h : site.settings.IsUsual) {response : Response}
    (hr : (site.submitLogin visit session).result = .ok response)
    (hstatus : response.status = 302) :
    ∃ u p, site.gate.configured = ⟨.text u, .text p⟩ ∧
      (site.submitLogin visit session).session.get? recordKey = some (loginRecord (.text u)) := by
  unfold submitLogin at hr ⊢
  dsimp only at hr ⊢
  split at hr
  next => simp at hr
  next =>
    have := status_of_deny hr
    exact absurd (this.symm.trans hstatus) (Denial.status_ne _).1
  next => simp at hr
  next payload _ _ =>
    rw [permit_of_isUsual h] at hr ⊢
    obtain ⟨outcome, ho, hafter⟩ := Reply.result_andThen_eq_ok_iff.mp hr
    rcases site.gate.login_cases session payload (Value.ofText? visit.request.target?)
      visit.request.origin with ⟨_, _, hl⟩ | ⟨_, hl⟩ | ⟨_, _, _, hl⟩ | ⟨u, p, _, hconf, hl⟩
    · rw [hl] at ho hafter
      obtain rfl := Except.ok.inj ho
      exact absurd ((status_of_showLoginPage hafter).symm.trans hstatus)
        (by simp [Outcome.status, Refusal.status])
    · rw [hl] at ho
      simp at ho
    · rw [hl] at ho hafter
      obtain rfl := Except.ok.inj ho
      exact absurd ((status_of_showLoginPage hafter).symm.trans hstatus)
        (by simp [Outcome.status, Refusal.status])
    · refine ⟨u, p, hconf, ?_⟩
      rw [hl] at ho ⊢
      obtain rfl := Except.ok.inj ho
      rw [Reply.andThen_of_ok rfl]
      have hsame : ∀ location : Value, (site.afterLogin visit (.admitted location)
          (session.withRecord (.text u))).session = session.withRecord (.text u) := by
        intro location
        cases location <;> rfl
      simp only [hsame, Session.get?_withRecord]

theorem username_of_visitor (h : site.settings.IsUsual) {username : String}
    (hr : (site.visitor visit session).result = .ok (some username)) :
    (site.visitor visit session).session.username? ≠ none := by
  rcases visitor_cases h visit session with ⟨result, hv, hname⟩ | ⟨token, hv⟩ | ⟨u, p, _, _, _, hv⟩
  · rw [hv] at hr ⊢
    simp [hname username hr]
  · simp [hv] at hr
  · have hrecord := Session.username?_of_loginRecord (session.get?_withRecord (.text u))
    simp [hv, hrecord]

theorem status_of_loginDetour {response : Response} (h : loginDetour request = .ok response) :
    response.status = 302 := by
  unfold loginDetour redirectTo at h
  rw [checked_eq_ok h]
  rfl

theorem get?_showPage (status : Nat) (content : Content) {name : String}
    (hne : name ≠ Session.noticesKey) :
    (showPage request session status content).session.get? name = session.get? name := by
  rw [showPage, Reply.session_map]
  unfold Session.takeNotices
  split
  next => rfl
  next => exact Session.get?_erase_of_ne hne session

theorem username_of_dashboard (h : site.settings.IsUsual) {response : Response}
    (hr : (site.dashboard visit session).result = .ok response) (hstatus : response.status = 200) :
    (site.dashboard visit session).session.username? ≠ none := by
  obtain ⟨who, hv, hpage⟩ := Reply.result_andThen_eq_ok_iff.mp hr
  rw [dashboard, Reply.andThen_of_ok hv]
  cases who with
  | none =>
    dsimp only at hpage
    split at hpage
    next => simp at hpage
    next =>
      rw [Reply.result_same] at hpage
      have := (status_of_loginDetour hpage).symm.trans hstatus
      simp at this
  | some username =>
    dsimp only
    rw [Session.username?_congr (get?_showPage _ _ (by decide))]
    exact username_of_visitor h hv

/-- The logout takes the record away whatever else becomes of it. -/
theorem record_of_logout (h : site.settings.IsUsual) :
    (site.logout request session).session.get? recordKey = none ∧
      (site.logout request session).written = true := by
  rw [logout, permit_of_isUsual h, Reply.andThen_of_ok rfl]
  have herased : (site.gate.logout session request.origin).session = session.erase recordKey := rfl
  simp only [herased]
  split
  next => exact ⟨Session.get?_erase_self _ _, rfl⟩
  next t ht =>
    refine ⟨?_, rfl⟩
    rw [Session.get?_addNotice ht (by decide), Session.get?_erase_self]

/-- Where the notices are those of the site, a logout sends the visitor on. -/
theorem logout_ok (h : site.settings.IsUsual) (hexit : site.gate.exit = .text "/login")
    (hp : session.IsPlain) : (site.logout request session).result = .ok (.redirect "/login") := by
  rw [logout, permit_of_isUsual h, Reply.andThen_of_ok rfl]
  have herased : (site.gate.logout session request.origin).session = session.erase recordKey := rfl
  obtain ⟨t, ht, _⟩ := (hp.erase recordKey).addNotice_ok "info" logoutNotice
  simp only [herased, ht, Outcome.location, hexit]
  rfl

end Site

end Gatehouse
