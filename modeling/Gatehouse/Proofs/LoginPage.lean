import Gatehouse.Proofs.Admission

namespace Gatehouse

open Relation (ReflTransGen)

namespace Session

/-- The record of one session is that of another, or there was no valid one and the request has been
vouched for. -/
def IsViewed (site : Site) (request : Request) (before after : Session) : Prop :=
  Option.Rel Value.Alike (before.get? recordKey) (after.get? recordKey) ∨
    before.record? = none ∧ ∃ u p, request.basicPair? = .ok (some (u, p)) ∧
      site.gate.configured = ⟨.text u, .text p⟩ ∧
      after.get? recordKey = some (loginRecord (.text u))

theorem not_alike {s t : Session} (hs : s.get? recordKey = none) (ht : t.username? ≠ none) :
    ¬ Option.Rel Value.Alike (s.get? recordKey) (t.get? recordKey) := by
  intro h
  rw [hs] at h
  cases hr : t.get? recordKey with
  | none => exact ht (by simp [username?, record?, hr])
  | some v =>
    rw [hr] at h
    cases h

theorem isViewed_kept {site : Site} {request : Request} {s t : Session} (hs : s.IsKeyed)
    (h : ReflTransGen (View site request) s t) :
    IsViewed site request s (t.erase orderKey).kept := by
  have ht : t.IsKeyed := isKeyed_of_changes (ReflTransGen.mono (fun _ _ => Change.viewed) _ _ h) hs
  have hkept := (ht.erase orderKey).alike_kept recordKey
  rw [get?_erase_of_ne (by decide)] at hkept
  rcases record_of_views h with hsame | ⟨hnone, u, p, hpair, hconf, hrecord⟩
  · rw [hsame] at hkept
    exact Or.inl hkept
  · refine Or.inr ⟨username?_eq_none_iff.mp hnone, u, p, hpair, hconf, ?_⟩
    have hstored : ∀ v, t.get? recordKey = some v → v.stored = .ok v := by
      intro v hv
      obtain rfl := Option.some.inj (hrecord.symm.trans hv)
      exact Value.stored_loginRecord u
    rw [get?_kept_erase ht (by decide) hstored, hrecord]

end Session

namespace Site

variable {site : Site} {request : Request} {visit : Visit} {session : Session}

/-- A login that does not send the visitor on does no more than to show a page. -/
theorem views_of_submitLogin (h : site.settings.IsUsual) {response : Response}
    (hr : (site.submitLogin visit session).result = .ok response)
    (hstatus : response.status ≠ 302) :
    ReflTransGen (Session.View site visit.request) session
      (site.submitLogin visit session).session := by
  unfold submitLogin at hr ⊢
  dsimp only at hr ⊢
  split at hr
  next => exact .refl
  next => exact .refl
  next => exact .refl
  next payload _ _ =>
    rw [permit_of_isUsual h] at hr ⊢
    obtain ⟨outcome, ho, hafter⟩ := Reply.result_andThen_eq_ok_iff.mp hr
    rcases site.gate.login_cases session payload (Value.ofText? visit.request.target?)
      visit.request.origin with ⟨_, _, hl⟩ | ⟨_, hl⟩ | ⟨_, _, _, hl⟩ | ⟨u, p, _, _, hl⟩
    · rw [hl, Reply.andThen_of_ok rfl]
      exact (through_afterLogin h _).changes
    · rw [hl, Reply.andThen_of_error rfl]
      exact .refl
    · rw [hl, Reply.andThen_of_ok rfl]
      exact (through_afterLogin h _).changes
    · rw [hl] at ho hafter
      obtain rfl := Except.ok.inj ho
      refine absurd ?_ hstatus
      unfold afterLogin at hafter
      split at hafter
      next => simp at hafter
      next hview => simp [Outcome.view?] at hview
      next =>
        rw [Reply.result_same] at hafter
        unfold redirectTo at hafter
        rw [checked_eq_ok hafter]
        rfl

/-- Showing the login page, and a login that is answered with status 400 or 401, leave the record as
it was, whatever the session holds; but where there is no valid record, the configured pair in the
header leaves one. -/
theorem record_of_loginPage {s : Settings} (hu : s.IsUsual) (hs : s.site = .ok site)
    {b : Browser} (hb : b.IsUsual) {message : Message} {address : String}
    (hsent : message.sentTo s.base address = .ok request)
    (hroute : Route.of (site.asked request) request.path = .endpoint .loginForm ∨
      Route.of (site.asked request) request.path = .endpoint .submitLogin ∧
        ∃ response, (site.respond request b).result = .ok response ∧
          (response.status = 400 ∨ response.status = 401)) :
    Session.IsViewed site request (b.sessionAt request.address.cookieHost)
      ((site.respond request b).browser.sessionAt request.address.cookieHost) := by
  obtain ⟨rfl, _⟩ := site_eq_ok hs
  have ha := isRooted_of_sentTo hu hsent
  have hsame : Session.IsViewed site request (b.sessionAt request.address.cookieHost)
      (b.sessionAt request.address.cookieHost) := Or.inl (Value.alike_refl _)
  rcases hroute with hroute | ⟨hroute, response, hr, hstatus⟩
  · rcases respond_becomes hu hb ha with heq | ⟨standing, _, hbecomes⟩
    · rwa [heq]
    · rcases hbecomes.here with heq | hkept
      · rwa [heq]
      · rw [hkept]
        refine Session.isViewed_kept (hb.keyed _) ?_
        cases standing with
        | error denial => exact .refl
        | ok name =>
          have hpage : (site.loginForm ⟨request, b.shownAt request.address⟩
              (b.sessionAt request.address.cookieHost)).Through (Session.View site request)
              (b.sessionAt request.address.cookieHost) := through_loginForm hu
          simp only [replyTo, answer, answerAs, hroute]
          exact hpage.changes
  · have hne : response ≠ .failed := by
      rintro rfl
      simp [Response.status] at hstatus
    obtain ⟨standing, made, _, hmade, hsealed, hleft⟩ := respond_answered hu hb ha hr hne
    have hmadestatus : made.status ≠ 302 := by
      rw [← Response.status_of_sealed hsealed]
      omega
    rcases hleft.becomes.here with heq | hkept
    · rwa [heq]
    · rw [hkept]
      refine Session.isViewed_kept (hb.keyed _) ?_
      cases standing with
      | error denial => exact .refl
      | ok name =>
        simp only [replyTo, answer, answerAs, hroute] at hmade ⊢
        exact views_of_submitLogin hu hmade hmadestatus

def vouchedPage : Request := { vouched with address := ⟨"http", "localhost", "", "/login"⟩ }

theorem username?_of_vouchedPage :
    ((forTests.respond vouchedPage .new).browser.sessionAt "localhost").username? =
      some "admin" := by
  decide +kernel

/-- The login page leaves a record with a visitor who has none and comes with the pair. -/
theorem record_of_vouchedPage :
    (Browser.new.sessionAt "localhost").get? recordKey = none ∧
      ((forTests.respond vouchedPage .new).browser.sessionAt "localhost").get? recordKey =
        some (loginRecord (.text "admin")) := by
  refine ⟨rfl, ?_⟩
  have hsent : vouched.sentTo Settings.forTests.base "/login" = .ok vouchedPage :=
    sentTo_eq_ok (ok_of_toOption (by decide +kernel)) (by decide +kernel)
  have hhost : vouchedPage.address.cookieHost = "localhost" := by decide +kernel
  have hviewed := record_of_loginPage isUsual_forTests site_forTests Browser.isUsual_new hsent
    (Or.inl (by decide +kernel))
  rw [hhost] at hviewed
  rcases hviewed with halike | ⟨_, u, p, _, hconf, hrecord⟩
  · exact absurd halike (Session.not_alike rfl (by simp [username?_of_vouchedPage]))
  · obtain rfl := Datum.text.inj (Credential.mk.inj hconf).1
    exact hrecord

/-- So the page does not always leave a session with the record that it had. -/
theorem loginPage_not_alike :
    Route.of (forTests.asked vouchedPage) vouchedPage.path = .endpoint .loginForm ∧
      ¬ Option.Rel Value.Alike ((Browser.new.sessionAt "localhost").get? recordKey)
        (((forTests.respond vouchedPage .new).browser.sessionAt "localhost").get? recordKey) :=
  ⟨by decide +kernel, Session.not_alike rfl (by simp [username?_of_vouchedPage])⟩

end Site

end Gatehouse
