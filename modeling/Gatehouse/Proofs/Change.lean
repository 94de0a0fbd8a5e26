import Gatehouse.Proofs.Gate
import Gatehouse.Proofs.Session.Plain
import Gatehouse.Proofs.Settings
import Gatehouse.Site.Answer
import Mathlib.Logic.Relation

namespace Gatehouse

open Relation (ReflTransGen)

/-- A request carries a pair: as the submission of a login, or in its header. -/
def Site.Carries (site : Site) (request : Request) (username password : String) : Prop :=
  (Route.of (site.asked request) request.path = .endpoint .submitLogin ∧
    ∃ payload target, request.payload = .ok payload ∧
      Submission.ofPayload payload target = .ok ⟨.text username, .text password, target⟩) ∨
  request.basicPair? = .ok (some (username, password))

namespace Session

/-- What showing a page can do to a session: a visitor with a token becomes a guest, a valid pair in
the header of a visitor without a record leaves one, and the notices are taken. -/
inductive View (site : Site) (request : Request) : Session → Session → Prop
  | token (s : Session) (visitor : String) : View site request s (s.withToken visitor)
  | vouched {s : Session} {u p : String} (norecord : s.username? = none)
    (carried : request.basicPair? = .ok (some (u, p)))
    (configured : site.gate.configured = ⟨.text u, .text p⟩) :
    View site request s (s.withRecord (.text u))
  | noticesTaken (s : Session) : View site request s (s.erase noticesKey)

/-- What an answer can do to a session: a page is shown, a login is submitted, or a logout takes the
record away and leaves its notice. -/
inductive Change (site : Site) (request : Request) : Session → Session → Prop
  | viewed {s t : Session} (h : View site request s t) : Change site request s t
  | submitted (s : Session) {u p : String} (carried : site.Carries request u p)
    (configured : site.gate.configured = ⟨.text u, .text p⟩) :
    Change site request s (s.withRecord (.text u))
  | dismissed (s : Session)
    (route : Route.of (site.asked request) request.path = .endpoint .logout) :
    Change site request s (s.erase recordKey)
  | notified {s t : Session} (h : s.addNotice "info" Site.logoutNotice = .ok t) :
    Change site request s t

end Session

namespace Reply

variable {α β : Type}

/-- The session of a reply comes about from another by changes of some kind, and by none if it was
not written to. -/
structure Through (r : Reply α) (change : Session → Session → Prop) (session : Session) : Prop where
  changes : ReflTransGen change session r.session
  unwritten : r.written = false → r.session = session

variable {change : Session → Session → Prop} {session : Session}

theorem through_same (result : Except Fault α) : (same result session).Through change session :=
  ⟨.refl, fun _ => rfl⟩

theorem through_of_change {r : Reply α} (h : change session r.session) (hw : r.written = true) :
    r.Through change session :=
  ⟨.single h, fun hf => by simp [hw] at hf⟩

theorem Through.map {r : Reply α} (h : r.Through change session) (f : α → β) :
    (r.map f).Through change session :=
  ⟨h.changes, h.unwritten⟩

theorem Through.mono {wider : Session → Session → Prop} {r : Reply α}
    (h : r.Through change session) (hle : ∀ s t, change s t → wider s t) :
    r.Through wider session :=
  ⟨ReflTransGen.mono hle _ _ h.changes, h.unwritten⟩

theorem Through.andThen {r : Reply α} (h : r.Through change session)
    {next : α → Session → Reply β} (hnext : ∀ a, (next a r.session).Through change r.session) :
    (r.andThen next).Through change session := by
  cases hr : r.result with
  | error fault =>
    rw [andThen_of_error hr]
    exact ⟨h.changes, h.unwritten⟩
  | ok a =>
    rw [andThen_of_ok hr]
    refine ⟨h.changes.trans (hnext a).changes, fun hw => ?_⟩
    simp only [Bool.or_eq_false_iff] at hw
    exact ((hnext a).unwritten hw.2).trans (h.unwritten hw.1)

end Reply

namespace Site

open Session (View Change)

variable {site : Site} {visit : Visit} {session : Session}

theorem check_of_isUsual (h : site.settings.IsUsual) (mark : String) :
    session.check mark (.ofSetting site.settings.protection) = .same (.ok true) session := by
  have hoff : Protection.ofSetting site.settings.protection = .off :=
    h.same (fun s => Protection.ofSetting s.protection) fun _ _ _ _ _ => rfl
  rw [hoff, Session.check]
  split <;> rfl

/-- Sessions are not protected, so all are trusted. -/
theorem visitor_of_isUsual (h : site.settings.IsUsual) {mark : String}
    (hm : visit.request.mark = .ok mark) :
    site.visitor visit session = site.trustedVisitor visit session := by
  simp only [visitor, hm, check_of_isUsual h]
  rw [Reply.andThen_of_ok rfl]
  simp [Reply.same]

/-- A pair in the header counts only where the session has no record, and only if it is the
configured one. -/
theorem identify_cases (h : site.settings.IsUsual) (request : Request) (session : Session) :
    (∃ result, site.identify request session = .same result session ∧
      ∀ name, result = .ok (some name) → session.username? = some name) ∨
    (∃ u p, session.username? = none ∧ request.basicPair? = .ok (some (u, p)) ∧
      site.gate.configured = ⟨.text u, .text p⟩ ∧
      site.identify request session =
        ⟨.ok (some u), session.withRecord (.text u), true, []⟩) := by
  unfold identify
  split
  next username hname =>
    refine Or.inl ⟨_, rfl, fun name hr => ?_⟩
    rw [hname, Except.ok.inj hr]
  next hnone =>
    split
    next => exact Or.inl ⟨_, rfl, by simp⟩
    next => exact Or.inl ⟨_, rfl, by simp⟩
    next username password hpair =>
      rw [permit_of_isUsual h]
      rcases site.gate.vouch_cases session ⟨.text username, .text password⟩ with
        ⟨result, hv, hne⟩ | ⟨u, p, hsame, hconf, hv⟩
      · rw [hv]
        refine Or.inl ⟨_, rfl, fun name hr => ?_⟩
        obtain ⟨valid, rfl, hvalid⟩ := map_eq_ok_iff.mp hr
        cases valid with
        | true => exact absurd rfl hne
        | false => simp at hvalid
      · obtain ⟨hu, hp⟩ := Credential.mk.inj hsame
        obtain rfl := Datum.text.inj hu
        obtain rfl := Datum.text.inj hp
        exact Or.inr ⟨username, password, hnone, hpair, hconf, by rw [hv]; rfl⟩

/-- Asking who the visitor is leaves the session as it was, or makes a guest of a visitor with a
token, or leaves the record of one who is vouched for. -/
theorem visitor_cases (h : site.settings.IsUsual) (visit : Visit) (session : Session) :
    (∃ result, site.visitor visit session = .same result session ∧
      ∀ name, result = .ok (some name) → session.username? = some name) ∨
    (∃ token, site.visitor visit session = ⟨.ok none, session.withToken token, true, []⟩) ∨
    (∃ u p, session.username? = none ∧ visit.request.basicPair? = .ok (some (u, p)) ∧
      site.gate.configured = ⟨.text u, .text p⟩ ∧
      site.visitor visit session =
        ⟨.ok (some u), session.withRecord (.text u), true, []⟩) := by
  cases hm : visit.request.mark with
  | error fault =>
    simp only [visitor, hm]
    exact Or.inl ⟨_, rfl, by simp⟩
  | ok mark =>
    rw [visitor_of_isUsual h hm, trustedVisitor]
    split
    next => exact Or.inl ⟨_, rfl, by simp⟩
    next => exact (identify_cases h visit.request session).imp id Or.inr
    next =>
      split
      next => exact Or.inl ⟨_, rfl, by simp⟩
      next => exact Or.inl ⟨_, rfl, by simp⟩
      next token _ => exact Or.inr (Or.inl ⟨token, rfl⟩)

theorem through_visitor (h : site.settings.IsUsual) :
    (site.visitor visit session).Through (View site visit.request) session := by
  rcases visitor_cases h visit session with ⟨_, hv, _⟩ | ⟨token, hv⟩ | ⟨u, p, hnone, hpair, hconf, hv⟩
  · rw [hv]
    exact Reply.through_same _
  · rw [hv]
    exact Reply.through_of_change (View.token session token) rfl
  · rw [hv]
    exact Reply.through_of_change (View.vouched hnone hpair hconf) rfl

theorem through_showPage (request : Request) (status : Nat) (content : Content) :
    (showPage request session status content).Through (View site request) session := by
  refine Reply.Through.map ?_ _
  unfold Session.takeNotices
  split
  next => exact Reply.through_same _
  next => exact Reply.through_of_change (View.noticesTaken session) rfl

theorem through_showLoginPage (h : site.settings.IsUsual) (status : Nat) (view : FormView) :
    (site.showLoginPage visit session status view).Through (View site visit.request) session :=
  (through_visitor h).andThen fun _ => through_showPage visit.request status _

theorem through_loginForm (h : site.settings.IsUsual) :
    (site.loginForm visit session).Through (View site visit.request) session :=
  through_showLoginPage h _ _

theorem through_dashboard (h : site.settings.IsUsual) :
    (site.dashboard visit session).Through (View site visit.request) session := by
  refine (through_visitor h).andThen fun who => ?_
  split
  next => exact through_showPage visit.request _ _
  next =>
    split
    next => exact Reply.through_same _
    next => exact Reply.through_same _

theorem through_afterLogin (h : site.settings.IsUsual) (outcome : Outcome) :
    (site.afterLogin visit outcome session).Through (View site visit.request) session := by
  unfold afterLogin
  split
  next => exact Reply.through_same _
  next => exact through_showLoginPage h _ _
  next => exact Reply.through_same _

theorem through_submitLogin (h : site.settings.IsUsual)
    (hroute : Route.of (site.asked visit.request) visit.request.path = .endpoint .submitLogin) :
    (site.submitLogin visit session).Through (Change site visit.request) session := by
  unfold submitLogin
  dsimp only
  split
  next => exact Reply.through_same _
  next => exact Reply.through_same _
  next => exact Reply.through_same _
  next payload _ hpayload =>
    rw [permit_of_isUsual h]
    refine Reply.Through.andThen ?_ fun outcome =>
      (through_afterLogin h outcome).mono fun _ _ => Change.viewed
    rcases site.gate.login_cases session payload (Value.ofText? visit.request.target?)
      visit.request.origin with ⟨_, _, hr⟩ | ⟨_, hr⟩ | ⟨_, _, _, hr⟩ | ⟨u, p, hsub, hconf, hr⟩
    · rw [hr]
      exact ⟨.refl, fun _ => rfl⟩
    · rw [hr]
      exact Reply.through_same _
    · rw [hr]
      exact ⟨.refl, fun _ => rfl⟩
    · rw [hr]
      exact Reply.through_of_change
        (Change.submitted session (Or.inl ⟨hroute, payload, _, hpayload, hsub⟩) hconf) rfl

theorem through_logout (h : site.settings.IsUsual) {request : Request}
    (hroute : Route.of (site.asked request) request.path = .endpoint .logout) :
    (site.logout request session).Through (Change site request) session := by
  unfold logout
  rw [permit_of_isUsual h]
  refine Reply.Through.andThen
    (Reply.through_of_change (Change.dismissed session hroute) rfl) fun outcome => ?_
  split
  next => exact Reply.through_same _
  next t ht => exact Reply.through_of_change (Change.notified ht) rfl

theorem through_answer (h : site.settings.IsUsual) (standing : Except Denial String) :
    (site.answer standing visit session).Through (Change site visit.request) session := by
  unfold answer
  split
  next name =>
    unfold answerAs
    dsimp only
    split
    next => exact Reply.through_same _
    next => exact Reply.through_same _
    next => exact Reply.through_same _
    next => exact Reply.through_same _
    next => exact Reply.through_same _
    next => exact (through_dashboard h).mono fun _ _ => Change.viewed
    next => exact (through_loginForm h).mono fun _ _ => Change.viewed
    next hroute => exact through_submitLogin h hroute
    next hroute => exact through_logout h hroute
  next => exact Reply.through_same _

end Site

end Gatehouse
