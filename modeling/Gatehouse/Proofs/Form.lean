import Gatehouse.Proofs.Admission
import Gatehouse.Url.Query.Lemmas

namespace Gatehouse

/-- The fields of the login form in the order in which they stand on the page. -/
def formBody (target username password : String) : String :=
  String.ofList (Query.write
    [(Request.targetName, target), ("session[username]", username),
     ("session[password]", password)])

/-- A request sends a target and a pair as a form, however they are encoded. -/
structure Request.FillsForm (r : Request) (target username password : String) : Prop where
  query : r.query = ""
  isForm : r.isForm = true
  fields : Query.read r.body.toList =
    [(targetName, target), ("session[username]", username), ("session[password]", password)]

/-- The form is encoded in the usual way. -/
structure Request.SendsForm (r : Request) (target username password : String) : Prop where
  query : r.query = ""
  contentType : r.contentType = some (String.ofList Request.formType)
  body : r.body = formBody target username password

namespace Request

variable {request : Request} {target username password : String}

theorem isForm_of_contentType (h : request.contentType = some (String.ofList formType)) :
    request.isForm = true := by
  rw [isForm, mediaType, plainType, h]
  decide +kernel

theorem isJson_of_isForm (h : request.isForm = true) : request.isJson = false := by
  have hmedia : request.mediaType = formType := by simpa [isForm] using h
  rw [isJson, hmedia]
  decide +kernel

theorem isParted_of_isForm (h : request.isForm = true) : request.isParted = false := by
  have hmedia : request.mediaType = formType := by simpa [isForm] using h
  rw [isParted, hmedia]
  decide +kernel

theorem hasLargeParts_of_isForm (h : request.isForm = true) : request.hasLargeParts = false := by
  rw [hasLargeParts, isParted_of_isForm h, Bool.false_and]

theorem payload_of_isForm (h : request.isForm = true) :
    request.payload = .ok request.formPayload := by
  simp [Request.payload, isJson_of_isForm h, isParted_of_isForm h]

theorem queryTarget?_of_query (h : request.query = "") : request.queryTarget? = none := by
  rw [queryTarget?, queryPairs, h]
  rfl

namespace FillsForm

theorem formPairs (h : request.FillsForm target username password) :
    request.formPairs = [(targetName, target), ("session[username]", username),
      ("session[password]", password)] := by
  rw [Request.formPairs, if_pos h.isForm, h.fields]

theorem target? (h : request.FillsForm target username password) :
    request.target? = some target := by
  rw [Request.target?, queryTarget?_of_query h.query, h.formPairs]
  simp [Query.first?]

theorem formFields (h : request.FillsForm target username password) :
    request.formFields = [("username", username), ("password", password)] := by
  have htarget : bracketed? targetName = none := by decide +kernel
  have husername : bracketed? "session[username]" = some "username" := by decide +kernel
  have hpassword : bracketed? "session[password]" = some "password" := by decide +kernel
  have hfirsts : firsts request.formPairs = request.formPairs := by
    rw [h.formPairs]
    simp [firsts, targetName]
  rw [Request.formFields, hfirsts, h.formPairs]
  simp [htarget, husername, hpassword]

theorem payload (h : request.FillsForm target username password) (asked : Value) :
    ∃ payload, request.payload = .ok payload ∧
      Submission.ofPayload payload asked = .ok ⟨.text username, .text password, asked⟩ := by
  refine ⟨request.formPayload, payload_of_isForm h.isForm, ?_⟩
  rw [formPayload, h.formFields]
  rfl

end FillsForm

theorem SendsForm.fillsForm (h : request.SendsForm target username password) :
    request.FillsForm target username password where
  query := h.query
  isForm := isForm_of_contentType h.contentType
  fields := by rw [h.body, formBody, String.toList_ofList, Query.read_write]

end Request

namespace Site

/-- A visitor who is sent to a location gets there by another, which goes into a header. -/
def Leads (location : Value) (sent : String) : Prop :=
  location ≠ .null ∧ ∃ made, redirectTo location = .ok made ∧ made.sealed = .ok (.redirect sent)

variable {site : Site} {visit : Visit} {session : Session}
  {target username password sent : String}

/-- The most octets that a form may have under usual settings. -/
def mostOctets : Nat := 500000

/-- Nothing but a form is too long. -/
theorem tooLong_of_isUsual (hu : site.settings.IsUsual) (request : Request) :
    site.tooLong request =
      .ok (request.isForm && decide (mostOctets < request.octets.length) ||
        request.hasLargeParts) := by
  have hbody : site.settings.bodyLimit = .null := hu.same Settings.bodyLimit fun _ _ _ _ _ => rfl
  have hform : site.settings.formLimit = .int mostOctets :=
    hu.same Settings.formLimit fun _ _ _ _ _ => rfl
  have hlimits : ∀ n : Nat, (Value.int mostOctets).limits n = .ok (decide (mostOctets < n)) := by
    intro n
    have hone : (0 : Int) < Binary64.one := by decide +kernel
    change Except.ok ((Magnitude.units (mostOctets * Binary64.one)).less
      (.units (n * Binary64.one))) = _
    simp only [Magnitude.less, Int.mul_lt_mul_right hone, Int.ofNat_lt]
  rw [tooLong, hbody, hform]
  cases hlength : request.hasLength with
  | false =>
    have hnone : request.octets = [] := by
      simp only [Request.hasLength, Bool.or_eq_false_iff, Bool.not_eq_false'] at hlength
      rw [Request.octets, String.isEmpty_iff.mp hlength.1]
      rfl
    simp [hnone]
  | true =>
    cases hform : request.isForm with
    | false => rfl
    | true =>
      rw [Request.hasLargeParts_of_isForm hform, Bool.or_false]
      exact hlimits _

theorem tooLong_of_isForm (hu : site.settings.IsUsual) {request : Request}
    (hf : request.isForm = true) :
    site.tooLong request = .ok (decide (mostOctets < request.octets.length)) := by
  rw [tooLong_of_isUsual hu, hf, Bool.true_and, Request.hasLargeParts_of_isForm hf, Bool.or_false]

theorem tooLong_of_fillsForm (hu : site.settings.IsUsual) {request : Request}
    (h : request.FillsForm target username password) :
    site.tooLong request = .ok (decide (mostOctets < request.octets.length)) :=
  tooLong_of_isForm hu h.isForm

theorem afterLogin_of_admitted (location : Value) :
    (∃ made, (site.afterLogin visit (.admitted location) session).result = .ok made ∧
      made.sealed = .ok (.redirect sent)) ↔ Leads location sent := by
  unfold afterLogin Leads
  split
  next hlocation _ =>
    have : location = .null := hlocation
    simp [this]
  next hview => simp [Outcome.view?] at hview
  next hne _ =>
    have : location ≠ .null := fun he => hne he rfl
    simp [this, Outcome.location]

/-- A form with the configured pair leads to its target if it is not too long. -/
theorem submitLogin_of_fillsForm (hu : site.settings.IsUsual)
    (hconf : site.gate.configured = ⟨.text username, .text password⟩)
    (h : visit.request.FillsForm target username password) :
    (∃ made, (site.submitLogin visit session).result = .ok made ∧
        made.sealed = .ok (.redirect sent)) ↔
      visit.request.octets.length ≤ mostOctets ∧
        Leads (Target.resolve (.text target) site.gate.landing) sent := by
  obtain ⟨payload, hpayload, hsub⟩ := h.payload (.text target)
  have hlogin : site.gate.login session payload (Value.ofText? visit.request.target?)
      visit.request.origin = ⟨.ok (.admitted (Target.resolve (.text target) site.gate.landing)),
        session.withRecord (.text username), true, [.login visit.request.origin]⟩ := by
    rw [h.target?]
    exact Gate.login_of_configured hconf hsub session _
  rw [submitLogin]
  simp only [tooLong_of_fillsForm hu h, hpayload]
  cases hlong : decide (mostOctets < visit.request.octets.length) with
  | true =>
    have hmore : ¬ visit.request.octets.length ≤ mostOctets := by
      simpa using hlong
    simp only [hmore, false_and, iff_false]
    rintro ⟨made, hmade, hsealed⟩
    rw [Reply.result_same, deny] at hmade
    split at hmade
    next => simp at hmade
    next =>
      rw [checked_eq_ok hmade] at hsealed
      simp [Response.sealed] at hsealed
  | false =>
    have hfits : visit.request.octets.length ≤ mostOctets := by
      simpa using hlong
    simp only [hfits, true_and]
    rw [hlogin, permit_of_isUsual hu, Reply.andThen_of_ok rfl]
    exact afterLogin_of_admitted _

end Site

end Gatehouse
