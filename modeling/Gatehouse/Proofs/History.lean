import Gatehouse.Proofs.Turn
import Gatehouse.Site.Run
import Mathlib.Data.List.Induction

namespace Gatehouse

structure Sending where
  client : String
  address : String
  message : Message

def Sending.action (sending : Sending) : String × Site.Action :=
  (sending.client, .send sending.address sending.message)

/-- What a client has sent, and what came of it. -/
structure Turn where
  sending : Sending
  exchange : Site.Exchange (Option Response)

namespace Turn

variable (turn : Turn) (site : Site) (client host : String)

/-- The turn was a request of the client to the host. -/
def IsBy (request : Request) : Prop :=
  turn.sending.client = client ∧
    turn.sending.message.sentTo site.settings.base turn.sending.address = .ok request ∧
    request.address.cookieHost = host

def Carries (username password : String) : Prop :=
  ∃ request, turn.IsBy site client host request ∧ site.Carries request username password

def Admits : Prop :=
  ∃ request response, turn.IsBy site client host request ∧
    turn.exchange.result = .ok (some response) ∧ site.Admits request response

def Dismisses : Prop :=
  ∃ request response, turn.IsBy site client host request ∧
    turn.exchange.result = .ok (some response) ∧ site.Dismisses request response

end Turn

namespace Site

def after (site : Site) : Table Browser → List (String × Action) → Table Browser
  | browsers, [] => browsers
  | browsers, (client, action) :: rest => site.after (site.step browsers client action).2 rest

/-- The browsers once all is sent, of clients that were never here before. -/
def browsers (site : Site) (sent : List Sending) : Table Browser :=
  site.after ∅ (sent.map Sending.action)

def turns (site : Site) (sent : List Sending) : List Turn :=
  List.zipWith Turn.mk sent (site.run ∅ (sent.map Sending.action))

def sessionOf (site : Site) (sent : List Sending) (client host : String) : Session :=
  ((site.browsers sent).getD client .new).sessionAt host

variable (site : Site)

theorem after_append (browsers : Table Browser) (actions more : List (String × Action)) :
    site.after browsers (actions ++ more) = site.after (site.after browsers actions) more := by
  induction actions generalizing browsers with
  | nil => rfl
  | cons first actions ih => exact ih _

theorem run_append (browsers : Table Browser) (actions more : List (String × Action)) :
    site.run browsers (actions ++ more) =
      site.run browsers actions ++ site.run (site.after browsers actions) more := by
  induction actions generalizing browsers with
  | nil => rfl
  | cons first actions ih =>
    exact congrArg ((site.step browsers first.1 first.2).1 :: ·) (ih _)

theorem length_run (browsers : Table Browser) (actions : List (String × Action)) :
    (site.run browsers actions).length = actions.length := by
  induction actions generalizing browsers with
  | nil => rfl
  | cons first actions ih => simp [run, ih]

def lastExchange (sent : List Sending) (last : Sending) : Exchange (Option Response) :=
  site.act ((site.browsers sent).getD last.client .new) (.send last.address last.message)

theorem turns_concat (sent : List Sending) (last : Sending) :
    site.turns (sent ++ [last]) = site.turns sent ++ [⟨last, site.lastExchange sent last⟩] := by
  rw [turns, List.map_append, run_append, List.zipWith_append (by simp [length_run])]
  rfl

theorem browsers_concat (sent : List Sending) (last : Sending) :
    site.browsers (sent ++ [last]) =
      (site.browsers sent).insert last.client (site.lastExchange sent last).browser := by
  rw [browsers, List.map_append, after_append]
  rfl

theorem getD_browsers_concat_self (sent : List Sending) (last : Sending) :
    (site.browsers (sent ++ [last])).getD last.client .new =
      (site.lastExchange sent last).browser := by
  rw [browsers_concat, Table.getD, Table.get?_insert_self]
  rfl

theorem getD_browsers_concat_of_ne {client : String} {last : Sending} (h : client ≠ last.client)
    (sent : List Sending) :
    (site.browsers (sent ++ [last])).getD client .new = (site.browsers sent).getD client .new := by
  rw [browsers_concat, Table.getD, Table.get?_insert_of_ne h]
  rfl

variable {site}

/-- The last exchange is that of a request, or leaves the browser as it was. -/
theorem lastExchange_cases (sent : List Sending) (last : Sending) :
    (∃ request, last.message.sentTo site.settings.base last.address = .ok request ∧
      (site.lastExchange sent last).result =
        (site.respond request ((site.browsers sent).getD last.client .new)).result.map some ∧
      (site.lastExchange sent last).browser =
        (site.respond request ((site.browsers sent).getD last.client .new)).browser) ∨
    ((∀ request, last.message.sentTo site.settings.base last.address ≠ .ok request) ∧
      (site.lastExchange sent last).browser = (site.browsers sent).getD last.client .new) := by
  unfold lastExchange act deliver
  dsimp only
  cases hs : last.message.sentTo site.settings.base last.address with
  | ok request => exact Or.inl ⟨request, rfl, rfl, rfl⟩
  | error fault => exact Or.inr ⟨fun _ h => by simp at h, rfl⟩

/-- What holds of a new browser and is kept by every request holds of all browsers that requests alone
have made what they are. -/
theorem browsers_induction {P : Browser → Prop} (hnew : P .new)
    (hstep : ∀ {message : Message} {address : String} {request : Request} {b : Browser},
      message.sentTo site.settings.base address = .ok request → P b →
      P (site.respond request b).browser) (sent : List Sending) (client : String) :
    P ((site.browsers sent).getD client .new) := by
  induction sent using List.reverseRecOn generalizing client with
  | nil => exact hnew
  | append_singleton sent last ih =>
    by_cases hc : client = last.client
    · rw [hc, getD_browsers_concat_self]
      rcases site.lastExchange_cases sent last with ⟨request, hs, _, hb⟩ | ⟨_, hb⟩
      · rw [hb]
        exact hstep hs (ih _)
      · rw [hb]
        exact ih _
    · rw [getD_browsers_concat_of_ne site hc]
      exact ih _

/-- Requests alone leave every client with a browser of its own making. -/
theorem isOwn_browsers (h : site.settings.IsUsual) (sent : List Sending) (client : String) :
    ((site.browsers sent).getD client .new).IsOwn site :=
  browsers_induction (P := fun b => b.IsOwn site) (Browser.isOwn_new site)
    (fun hs ho => isOwn_of_respond h ho (isRooted_of_sentTo h hs)) sent client

theorem browsers_induction_of_isOwn (h : site.settings.IsUsual) {P : Browser → Prop}
    (hnew : P .new)
    (hstep : ∀ {request : Request} {b : Browser}, request.address.IsRooted → b.IsOwn site → P b →
      P (site.respond request b).browser) (sent : List Sending) (client : String) :
    P ((site.browsers sent).getD client .new) := by
  have hboth : ((site.browsers sent).getD client .new).IsOwn site ∧
      P ((site.browsers sent).getD client .new) :=
    browsers_induction (P := fun b => b.IsOwn site ∧ P b) ⟨Browser.isOwn_new site, hnew⟩
      (fun hs ⟨ho, hb⟩ => ⟨isOwn_of_respond h ho (isRooted_of_sentTo h hs),
        hstep (isRooted_of_sentTo h hs) ho hb⟩) sent client
  exact hboth.2

/-- A turn of another client, or at another host, leaves the session as it was. -/
theorem sessionOf_concat (h : site.settings.IsUsual) (sent : List Sending) (last : Sending)
    (client host : String) :
    (∃ request, (⟨last, site.lastExchange sent last⟩ : Turn).IsBy site client host request ∧
      (site.lastExchange sent last).result =
        (site.respond request ((site.browsers sent).getD client .new)).result.map some ∧
      site.sessionOf (sent ++ [last]) client host =
        (site.respond request ((site.browsers sent).getD client .new)).browser.sessionAt host) ∨
    ((∀ request, ¬ (⟨last, site.lastExchange sent last⟩ : Turn).IsBy site client host request) ∧
      site.sessionOf (sent ++ [last]) client host = site.sessionOf sent client host) := by
  by_cases hc : client = last.client
  · subst hc
    rw [sessionOf, getD_browsers_concat_self]
    rcases site.lastExchange_cases sent last with ⟨request, hs, hr, hb⟩ | ⟨hnone, hb⟩
    · by_cases hhost : request.address.cookieHost = host
      · exact Or.inl ⟨request, ⟨rfl, hs, hhost⟩, hr, by rw [hb]⟩
      · refine Or.inr ⟨fun other hby => ?_, ?_⟩
        · obtain rfl := Except.ok.inj (hs.symm.trans hby.2.1)
          exact hhost hby.2.2
        · rw [hb]
          have ho := isOwn_browsers h sent last.client
          rcases respond_becomes h ho.usual (isRooted_of_sentTo h hs) with hsame | ⟨_, _, hbecomes⟩
          · rw [hsame]
            rfl
          · exact hbecomes.elsewhere host (Ne.symm hhost)
    · exact Or.inr ⟨fun other hby => hnone other hby.2.1, by rw [hb]; rfl⟩
  · refine Or.inr ⟨fun _ hby => hc hby.1.symm, ?_⟩
    rw [sessionOf, getD_browsers_concat_of_ne site hc]
    rfl

def lastTurn (site : Site) (sent : List Sending) (last : Sending) : Turn :=
  ⟨last, site.lastExchange sent last⟩

variable {sent : List Sending} {last : Sending} {client host : String}

theorem record_persists (h : site.settings.IsUsual) (hexit : site.gate.exit = .text "/login")
    {v : Value} (hv : (site.sessionOf sent client host).get? recordKey = some v)
    (hstays : ¬ (site.lastTurn sent last).Dismisses site client host) :
    (site.sessionOf (sent ++ [last]) client host).get? recordKey = some v := by
  have ho := isOwn_browsers h sent client
  rcases sessionOf_concat h sent last client host with ⟨request, hby, hr, hsession⟩ | ⟨_, hsession⟩
  · rw [hsession, ← hby.2.2]
    rw [sessionOf, ← hby.2.2] at hv
    rcases record_of_respond h hexit ho (isRooted_of_sentTo h hby.2.1) with hsame |
      ⟨u, p, _, hconf, hrecord⟩ | ⟨⟨response, hresult, hd⟩, _⟩
    · rw [hsame, hv]
    · obtain ⟨u', p', hconf', rfl⟩ := ho.standard _ v hv
      obtain ⟨hu, _⟩ := Credential.mk.inj (hconf.symm.trans hconf')
      rw [hrecord, Datum.text.inj hu]
    · refine absurd ⟨request, response, hby, ?_, hd⟩ hstays
      exact hr.trans (by rw [hresult]; rfl)
  · rw [hsession, hv]

/-- A record was there before or stems from the last turn, which was no logout. -/
theorem record_stems (h : site.settings.IsUsual) (hexit : site.gate.exit = .text "/login")
    {v : Value} (hv : (site.sessionOf (sent ++ [last]) client host).get? recordKey = some v) :
    ¬ (site.lastTurn sent last).Dismisses site client host ∧
      ((site.sessionOf sent client host).get? recordKey = some v ∨
        ∃ u p, site.gate.configured = ⟨.text u, .text p⟩ ∧
          (site.lastTurn sent last).Carries site client host u p) := by
  have ho := isOwn_browsers h sent client
  rcases sessionOf_concat h sent last client host with ⟨request, hby, hr, hsession⟩ |
    ⟨hnot, hsession⟩
  · rw [hsession, ← hby.2.2] at hv
    have hrooted := isRooted_of_sentTo h hby.2.1
    constructor
    · rintro ⟨other, response, hother, hresult, hd⟩
      obtain rfl := Except.ok.inj (hby.2.1.symm.trans hother.2.1)
      obtain ⟨made, hmade, hsome⟩ := map_eq_ok_iff.mp (hr.symm.trans hresult)
      obtain rfl := Option.some.inj hsome
      rw [record_of_dismisses h ho hrooted hmade hd] at hv
      simp at hv
    · rcases record_of_respond h hexit ho hrooted with hsame | ⟨u, p, hcarries, hconf, _⟩ |
        ⟨_, hnone⟩
      · refine Or.inl ?_
        rw [sessionOf, ← hby.2.2, ← hsame, hv]
      · exact Or.inr ⟨u, p, hconf, request, hby, hcarries⟩
      · rw [hnone] at hv
        simp at hv
  · rw [hsession] at hv
    exact ⟨fun ⟨request, _, hby, _⟩ => hnot request hby, Or.inl hv⟩

theorem record_of_lastTurn (h : site.settings.IsUsual)
    (hadmits : (site.lastTurn sent last).Admits site client host) :
    ∃ u p, site.gate.configured = ⟨.text u, .text p⟩ ∧
      (site.sessionOf (sent ++ [last]) client host).get? recordKey =
        some (loginRecord (.text u)) := by
  obtain ⟨request, response, hby, hresult, hadmits⟩ := hadmits
  rcases sessionOf_concat h sent last client host with ⟨other, hother, hr, hsession⟩ | ⟨hnot, _⟩
  · obtain rfl := Except.ok.inj (hby.2.1.symm.trans hother.2.1)
    obtain ⟨made, hmade, hsome⟩ := map_eq_ok_iff.mp (hr.symm.trans hresult)
    obtain rfl := Option.some.inj hsome
    rw [hsession, ← hby.2.2]
    exact record_of_admits h (isOwn_browsers h sent client) (isRooted_of_sentTo h hby.2.1) hmade
      hadmits
  · exact absurd hby (hnot request)

/-- Every record in a session stems from a turn that carried the configured pair, with no logout
since. -/
theorem exists_carrier (h : site.settings.IsUsual) (hexit : site.gate.exit = .text "/login")
    {v : Value} (hv : (site.sessionOf sent client host).get? recordKey = some v) :
    ∃ u p, site.gate.configured = ⟨.text u, .text p⟩ ∧
      ∃ early turn late, site.turns sent = early ++ turn :: late ∧
        turn.Carries site client host u p ∧
        ∀ t ∈ turn :: late, ¬ t.Dismisses site client host := by
  induction sent using List.reverseRecOn with
  | nil => simp [sessionOf, browsers, after, Table.getD, Browser.sessionAt_new] at hv
  | append_singleton sent last ih =>
    obtain ⟨hno, hbefore | ⟨u, p, hconf, hcarries⟩⟩ := record_stems h hexit hv
    · obtain ⟨u, p, hconf, early, turn, late, hturns, hcarries, hstays⟩ := ih hbefore
      refine ⟨u, p, hconf, early, turn, late ++ [site.lastTurn sent last], ?_, hcarries, ?_⟩
      · rw [turns_concat, hturns, List.append_assoc]
        rfl
      · intro t ht
        rw [← List.cons_append] at ht
        rcases List.mem_append.mp ht with ht | ht
        · exact hstays t ht
        · rwa [List.mem_singleton.mp ht]
    · refine ⟨u, p, hconf, site.turns sent, site.lastTurn sent last, [], turns_concat .., hcarries,
        ?_⟩
      intro t ht
      rwa [List.mem_singleton.mp ht]

theorem record_since_admission (h : site.settings.IsUsual) (hexit : site.gate.exit = .text "/login")
    {early late : List Turn} {turn : Turn} (hturns : site.turns sent = early ++ turn :: late)
    (hadmits : turn.Admits site client host) (hstays : ∀ t ∈ late, ¬ t.Dismisses site client host) :
    ∃ u p, site.gate.configured = ⟨.text u, .text p⟩ ∧
      (site.sessionOf sent client host).get? recordKey = some (loginRecord (.text u)) := by
  induction sent using List.reverseRecOn generalizing late with
  | nil => simp [turns] at hturns
  | append_singleton sent last ih =>
    rw [turns_concat] at hturns
    rcases List.eq_nil_or_concat late with rfl | ⟨more, t, rfl⟩
    · obtain ⟨_, hturn⟩ := List.append_inj' hturns rfl
      obtain rfl := (List.cons.inj hturn).1
      exact record_of_lastTurn h hadmits
    · rw [List.concat_eq_append, ← List.cons_append, ← List.append_assoc] at hturns
      obtain ⟨hbefore, hlast⟩ := List.append_inj' hturns rfl
      obtain rfl := (List.cons.inj hlast).1
      obtain ⟨u, p, hconf, hv⟩ := ih hbefore fun t ht => hstays t (by simp [ht])
      exact ⟨u, p, hconf, record_persists h hexit hv (hstays _ (by simp [lastTurn]))⟩

/-- A session holds a record only if the credentials are texts and a request of the client carried
them, by the login form or in its header, and the client has not logged out since. The record is
then the standard one. It is there once the client was sent on by the login page or shown the
dashboard, and it stays until the client logs out, whatever else is requested. -/
theorem record_of_history {s : Settings} (hu : s.IsUsual) {site : Site} (hs : s.site = .ok site)
    (sent : List Sending) (client host : String) :
    (∀ v, (site.sessionOf sent client host).get? recordKey = some v →
      ∃ u p, s.username = .text u ∧ s.password = .text p ∧ v = loginRecord (.text u) ∧
        ∃ early turn late, site.turns sent = early ++ turn :: late ∧
          turn.Carries site client host u p ∧
          ∀ t ∈ turn :: late, ¬ t.Dismisses site client host) ∧
    (∀ early turn late, site.turns sent = early ++ turn :: late →
      turn.Admits site client host → (∀ t ∈ late, ¬ t.Dismisses site client host) →
      ∃ u, s.username = .text u ∧
        (site.sessionOf sent client host).get? recordKey = some (loginRecord (.text u))) := by
  have hpair : ∀ {u p : String}, site.gate.configured = ⟨.text u, .text p⟩ →
      s.username = .text u ∧ s.password = .text p := (configured_eq_texts_iff hs).mp
  obtain ⟨rfl, _, _, hexit⟩ := site_eq_ok hs
  constructor
  · intro v hv
    obtain ⟨u, p, hcarried, hturns⟩ := exists_carrier hu hexit hv
    obtain ⟨u', p', hstandard, rfl⟩ := (isOwn_browsers hu sent client).standard host v hv
    obtain ⟨hu, _⟩ := Credential.mk.inj (hstandard.symm.trans hcarried)
    exact ⟨u, p, (hpair hcarried).1, (hpair hcarried).2, by rw [Datum.text.inj hu], hturns⟩
  · intro early turn late hturns hadmits hstays
    obtain ⟨u, p, hadmitted, hv⟩ := record_since_admission hu hexit hturns hadmits hstays
    exact ⟨u, (hpair hadmitted).1, hv⟩

/-- A visitor who comes with the pair is shown the dashboard and has the record from then on. -/
theorem record_of_vouched :
    Settings.forTests.IsUsual ∧ Settings.forTests.site = .ok forTests ∧
      (forTests.sessionOf [⟨"visitor", "/", vouched⟩] "visitor" "localhost").get? recordKey =
        some (loginRecord (.text "admin")) := by
  refine ⟨isUsual_forTests, site_forTests, ?_⟩
  have hsent : vouched.sentTo Settings.forTests.base "/" =
      .ok { vouched with address := ⟨"http", "localhost", "", "/"⟩ } :=
    sentTo_eq_ok (ok_of_toOption (by decide +kernel)) (by decide +kernel)
  have hstatus : ((forTests.respond { vouched with address := ⟨"http", "localhost", "", "/"⟩ }
      .new).result.toOption.map Response.status) = some 200 := by
    decide +kernel
  obtain ⟨response, hr, h200⟩ := Option.map_eq_some_iff.mp hstatus
  have hturns := turns_concat forTests [] ⟨"visitor", "/", vouched⟩
  have hadmits : Turn.Admits (forTests.lastTurn [] ⟨"visitor", "/", vouched⟩) forTests
      "visitor" "localhost" := by
    refine ⟨{ vouched with address := ⟨"http", "localhost", "", "/"⟩ }, response,
      ⟨rfl, hsent, by decide +kernel⟩, ?_, Or.inr ⟨by decide +kernel, h200⟩⟩
    have hlast : (forTests.lastExchange [] ⟨"visitor", "/", vouched⟩).result =
        (forTests.respond { vouched with address := ⟨"http", "localhost", "", "/"⟩ }
          .new).result.map some := by
      rcases forTests.lastExchange_cases [] ⟨"visitor", "/", vouched⟩ with
        ⟨request, hs, hr, _⟩ | ⟨hnone, _⟩
      · obtain rfl := Except.ok.inj (hsent.symm.trans hs)
        exact hr
      · exact absurd hsent (hnone _)
    exact hlast.trans (by rw [ok_of_toOption hr]; rfl)
  obtain ⟨u, hu, hrecord⟩ := (record_of_history isUsual_forTests site_forTests
    [⟨"visitor", "/", vouched⟩] "visitor" "localhost").2 [] _ [] hturns hadmits (by simp)
  obtain rfl := Datum.text.inj hu
  exact hrecord

/-- The pair may come in parts as well. -/
example :
    let login : Request :=
      { vouched with
        verb := "POST"
        contentType := some "multipart/form-data; boundary=part"
        parts := .read [(some "session[username]", "admin"), (some "session[password]", "correct")]
        authorization := none
        address := ⟨"http", "localhost", "", "/login"⟩ }
    (forTests.respond login .new).result.toOption.map Response.status = some 302 ∧
      ((forTests.respond login .new).browser.sessionAt "localhost").username? = some "admin" := by
  decide +kernel

end Site

end Gatehouse
