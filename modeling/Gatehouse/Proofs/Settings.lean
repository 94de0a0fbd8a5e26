import Gatehouse.Proofs.Reply

namespace Gatehouse

namespace Settings

/-- Settings in which nothing is made up but the gate. -/
def IsUsual (s : Settings) : Prop :=
  ∃ base, (base = forTests ∨ ∃ env, base = ofEnvironment env) ∧
    s = { base with landing := s.landing, username := s.username, password := s.password }

/-- All that usual settings can differ in. -/
def usual (key : String) (testing : Bool) (landing : Option Value)
    (username password : Datum) : Settings :=
  { initial with
    secretKey := .text key
    testing := .bool testing
    sessionCookie := { initial.sessionCookie with sameSite := .text "Lax" }
    landing
    username
    password }

theorem IsUsual.eq_usual {s : Settings} (h : s.IsUsual) :
    ∃ key testing, key ≠ "" ∧ s = usual key testing s.landing s.username s.password := by
  obtain ⟨base, hbase, hs⟩ := h
  rcases hbase with rfl | ⟨env, rfl⟩
  · exact ⟨"test-secret-key", true, by decide, hs⟩
  · have hkey : ∃ key, key ≠ "" ∧ (ofEnvironment env).secretKey = .text key := by
      unfold ofEnvironment
      dsimp only
      split
      next => exact ⟨developmentKey, by decide, rfl⟩
      next => exact ⟨developmentKey, by decide, rfl⟩
      next key hne _ => exact ⟨key, hne, rfl⟩
    obtain ⟨key, hne, hk⟩ := hkey
    refine ⟨key, false, hne, hs.trans ?_⟩
    rw [hk]
    rfl

/-- What does not depend on what usual settings can differ in is the same for all of them. -/
theorem IsUsual.same {s : Settings} (h : s.IsUsual) {α : Type} (f : Settings → α) {a : α}
    (hf : ∀ key testing landing username password,
      f (usual key testing landing username password) = a) : f s = a := by
  obtain ⟨key, testing, _, hs⟩ := h.eq_usual
  rw [hs]
  exact hf _ _ _ _ _

end Settings

namespace Site

/-- The site that is described by the settings for tests. -/
def forTests : Site where
  gate :=
    { configured := ⟨.text "admin", .text "correct"⟩
      landing := .text "/"
      exit := .text Endpoint.loginForm.path }
  settings := .forTests

theorem site_forTests : Settings.forTests.site = .ok forTests := rfl

theorem isUsual_forTests : Settings.forTests.IsUsual := ⟨.forTests, Or.inl rfl, rfl⟩

/-- A message with the pair of the settings for tests in its header. -/
def vouched : Message where
  verb := "GET"
  query := ""
  body := ""
  contentType := none
  authorization := some "Basic YWRtaW46Y29ycmVjdA=="
  origin := .text "127.0.0.1"
  agent := "test"

theorem sentTo_eq_ok {message : Message} {base : Address.Base} {text : String} {address : Address}
    (ha : Address.read base text = .ok address)
    (hline : message.headerText.any Location.isNewline = false) :
    message.sentTo base text = .ok { message with address } := by
  rw [Message.sentTo, ha]
  simp [Except.bind, hline]

theorem base_of_isUsual {s : Settings} (h : s.IsUsual) :
    s.base = ⟨.text "http", .null, .text "/"⟩ :=
  h.same Settings.base fun _ _ _ _ _ => rfl

theorem read_root : Address.read ⟨.text "http", .null, .text "/"⟩ "/" =
    .ok ⟨"http", "localhost", "", "/"⟩ := ok_of_toOption (by decide +kernel)

theorem read_login : Address.read ⟨.text "http", .null, .text "/"⟩ "/login" =
    .ok ⟨"http", "localhost", "", "/login"⟩ := ok_of_toOption (by decide +kernel)

theorem sentTo_of_read {s : Settings} (h : s.IsUsual) {text : String} {address : Address}
    (ha : Address.read ⟨.text "http", .null, .text "/"⟩ text = .ok address) {message : Message}
    (hline : message.headerText.any Location.isNewline = false) :
    message.sentTo s.base text = .ok { message with address } := by
  rw [base_of_isUsual h]
  exact sentTo_eq_ok ha hline

theorem site_eq_ok {s : Settings} {site : Site} (h : s.site = .ok site) :
    site.settings = s ∧ site.gate.configured = ⟨s.username, s.password⟩ ∧
      site.gate.landing = s.landing.getD (.text "/") ∧
      site.gate.exit = .text Endpoint.loginForm.path := by
  unfold Settings.site Settings.gate at h
  split at h
  next =>
    obtain rfl := Except.ok.inj h
    exact ⟨rfl, rfl, rfl, rfl⟩
  next => simp [Except.map] at h

/-- The gate of a site has a pair of texts just where the settings give it. -/
theorem configured_eq_texts_iff {s : Settings} {site : Site} (h : s.site = .ok site)
    {u p : String} :
    site.gate.configured = ⟨.text u, .text p⟩ ↔ s.username = .text u ∧ s.password = .text p := by
  rw [(site_eq_ok h).2.1, Credential.mk.injEq]

variable {site : Site}

theorem signed_of_isUsual (h : site.settings.IsUsual) : site.signed = true := by
  obtain ⟨key, testing, hne, hs⟩ := h.eq_usual
  rw [signed, hs]
  simpa [Settings.usual, Value.truthy] using hne

theorem permit_of_isUsual (h : site.settings.IsUsual) {α : Type} (session : Session)
    (r : Reply α) : site.permit session r = r := by
  simp [permit, signed_of_isUsual h]

theorem order?_of_isUsual (h : site.settings.IsUsual) (session : Session) :
    site.order? session = session.get? Session.orderKey := by
  obtain ⟨key, testing, _, hs⟩ := h.eq_usual
  rw [order?, hs]
  cases session.get? Session.orderKey with
  | none => rfl
  | some order => rfl

theorem days_month : Lifetime.days (.int (31 * 86400)) = .ok 31 :=
  ok_of_toOption (by decide +kernel)

theorem isPast_month : Lifetime.isPast (.int (31 * 86400)) = false := by decide +kernel

theorem sessionLifetime_of_isUsual (h : site.settings.IsUsual) :
    site.settings.sessionLifetime = .int (31 * 86400) :=
  h.same Settings.sessionLifetime fun _ _ _ _ _ => rfl

theorem keepsSessions_of_isUsual (h : site.settings.IsUsual) : site.keepsSessions = .ok true := by
  simp only [keepsSessions, sessionLifetime_of_isUsual h, days_month, isPast_month, Bool.not_false]

theorem checkSecret_of_isUsual (h : site.settings.IsUsual) : site.checkSecret = .ok () := by
  obtain ⟨key, testing, _, hs⟩ := h.eq_usual
  rw [checkSecret, hs]
  rfl

theorem checkEnd_of_isUsual (h : site.settings.IsUsual) (session : Session) :
    site.checkEnd session = .ok () := by
  have hc : Lifetime.check (.int (31 * 86400)) = .ok () := by
    rw [Lifetime.check, days_month]
    rfl
  unfold checkEnd
  split
  next => rfl
  next =>
    simp only [sessionLifetime_of_isUsual h, hc]
    rfl

end Site

end Gatehouse
