import Gatehouse.Proofs.Gate
import Mathlib.Logic.ExistsUnique

namespace Gatehouse

namespace Datum

/-- A text in which no half of a surrogate pair stands alone. -/
def isWhole : Datum → Bool
  | .text _ => true
  | _ => false

theorem isWhole_eq_true_iff {v : Datum} : v.isWhole = true ↔ ∃ s, v = .text s := by
  cases v <;> simp [isWhole]

/-- What is no whole text is no text at all, or it has a half that stands alone; each is a fault of its
own. -/
theorem odd_cases {v : Datum} (h : v.isWhole = false) :
    (v.isText = false ∧ v.whole = .error (.notText .encoded v.kind)) ∨
      ∃ t, v = .ragged t ∧ v.whole = .error t.fault := by
  cases v with
  | text s => cases h
  | ragged t => exact Or.inr ⟨t, rfl, rfl⟩
  | _ => exact Or.inl ⟨rfl, rfl⟩

end Datum

namespace Submission

/-- The payload is a map, with a map of fields in it, where a username and a password are texts, whole
or not. -/
def Holds (payload : Datum) (pair : Credential) : Prop :=
  ∃ entries fields, payload = .map entries ∧
    Datum.lookupText "session" entries = some (.map fields) ∧
    Datum.lookupText "username" fields = some pair.username ∧
    Datum.lookupText "password" fields = some pair.password ∧
    pair.username.isText = true ∧ pair.password.isText = true

/-- What a payload lacks, by the flaw that names it. -/
def Lacks (payload : Datum) : Flaw → Prop
  | .notMap => ∀ entries, payload ≠ .map entries
  | .noSession => ∃ entries, payload = .map entries ∧
    ∀ fields, Datum.lookupText "session" entries ≠ some (.map fields)
  | .notTexts => ∃ entries fields, payload = .map entries ∧
    Datum.lookupText "session" entries = some (.map fields) ∧
    ∀ u p, Datum.lookupText "username" fields = some u →
      Datum.lookupText "password" fields = some p → ¬ (u.isText = true ∧ p.isText = true)

/-- Two payloads are the same but for entries that no login reads. -/
def SameFields (payload other : Datum) : Prop :=
  ∃ entries others, payload = .map entries ∧ other = .map others ∧
    (Datum.lookupText "session" entries = Datum.lookupText "session" others ∨
      ∃ fields more, Datum.lookupText "session" entries = some (.map fields) ∧
        Datum.lookupText "session" others = some (.map more) ∧
        Datum.lookupText "username" fields = Datum.lookupText "username" more ∧
        Datum.lookupText "password" fields = Datum.lookupText "password" more)

variable {payload other : Datum} {target : Value} {pair : Credential} {flaw : Flaw}

theorem ofPayload_of_holds (h : Holds payload pair) :
    ofPayload payload target = .ok ⟨pair.username, pair.password, target⟩ := by
  obtain ⟨entries, fields, rfl, hsession, hu, hp, htexts⟩ := h
  simp only [ofPayload, formKey, hsession, hu, hp, htexts, Bool.and_self, if_true]

theorem ofPayload_of_lacks (h : Lacks payload flaw) : ofPayload payload target = .error flaw := by
  cases flaw with
  | notMap =>
    unfold ofPayload
    split
    next entries => exact absurd rfl (h entries)
    next => rfl
  | noSession =>
    obtain ⟨entries, rfl, hnone⟩ := h
    dsimp only [ofPayload, formKey]
    split
    next fields hsession => exact absurd hsession (hnone fields)
    next => rfl
  | notTexts =>
    obtain ⟨entries, fields, rfl, hsession, hnone⟩ := h
    simp only [ofPayload, formKey, hsession]
    split
    next u p hu hp => rw [if_neg (by simpa using hnone u p hu hp)]
    next => rfl

theorem holds_or_lacks (payload : Datum) :
    (∃ pair, Holds payload pair) ∨ ∃ flaw, Lacks payload flaw := by
  by_cases hmap : ∃ entries, payload = .map entries
  · obtain ⟨entries, rfl⟩ := hmap
    by_cases hsession : ∃ fields, Datum.lookupText "session" entries = some (.map fields)
    · obtain ⟨fields, hfields⟩ := hsession
      by_cases htexts : ∃ u p, Datum.lookupText "username" fields = some u ∧
          Datum.lookupText "password" fields = some p ∧ u.isText = true ∧ p.isText = true
      · obtain ⟨u, p, hu, hp, hboth⟩ := htexts
        exact Or.inl ⟨⟨u, p⟩, entries, fields, rfl, hfields, hu, hp, hboth⟩
      · exact Or.inr ⟨.notTexts, entries, fields, rfl, hfields,
          fun u p hu hp hboth => htexts ⟨u, p, hu, hp, hboth⟩⟩
    · exact Or.inr ⟨.noSession, entries, rfl, fun fields h => hsession ⟨fields, h⟩⟩
  · exact Or.inr ⟨.notMap, fun entries h => hmap ⟨entries, h⟩⟩

theorem Holds.unique {pair' : Credential} (h : Holds payload pair) (h' : Holds payload pair') :
    pair = pair' := by
  obtain ⟨u, p⟩ := pair
  have hread : ofPayload payload .null = .ok ⟨u, p, .null⟩ := ofPayload_of_holds h
  rw [ofPayload_of_holds h'] at hread
  obtain ⟨rfl, rfl, _⟩ := mk.inj (Except.ok.inj hread)
  rfl

theorem Lacks.unique {flaw' : Flaw} (h : Lacks payload flaw) (h' : Lacks payload flaw') :
    flaw = flaw' := by
  have hread : ofPayload payload .null = .error flaw := ofPayload_of_lacks h
  rw [ofPayload_of_lacks h'] at hread
  exact (Except.error.inj hread).symm

theorem Holds.not_lacks (h : Holds payload pair) : ¬ Lacks payload flaw := by
  intro h'
  have hread : ofPayload payload .null = .ok ⟨pair.username, pair.password, .null⟩ :=
    ofPayload_of_holds h
  rw [ofPayload_of_lacks h'] at hread
  cases hread

theorem SameFields.ofPayload_eq (h : SameFields payload other) :
    ofPayload other target = ofPayload payload target := by
  obtain ⟨entries, others, rfl, rfl, hsame | ⟨fields, more, hfields, hmore, hu, hp⟩⟩ := h
  · simp only [ofPayload, formKey, hsame]
  · simp only [ofPayload, formKey, hfields, hmore, hu, hp]

end Submission

namespace Credential

/-- What is looked at when a submitted pair is compared with the configured one, in order. -/
def operands (configured submitted : Credential) : List Datum :=
  [submitted.username, configured.username, submitted.password, configured.password]

/-- The first of these that is no whole text. -/
def odd? (configured submitted : Credential) : Option Datum :=
  (configured.operands submitted).find? fun v => !v.isWhole

variable {configured submitted : Credential}

/-- Pairs of whole texts are compared; else the first that is no whole text is the fault. -/
theorem compareWith_cases (configured submitted : Credential) :
    (∃ u p cu cp, submitted = ⟨.text u, .text p⟩ ∧ configured = ⟨.text cu, .text cp⟩) ∨
    ∃ v, configured.odd? submitted = some v ∧ v.isWhole = false ∧
      ∀ fault, v.whole = .error fault → configured.compareWith submitted = .error fault := by
  obtain ⟨su, sp⟩ := submitted
  obtain ⟨cu, cp⟩ := configured
  cases hsu : su.isWhole with
  | false =>
    refine Or.inr ⟨su, by simp [odd?, operands, hsu], hsu, fun fault h => ?_⟩
    exact compareWith_of_first (compareTexts_of_left h cu)
  | true =>
    obtain ⟨u, rfl⟩ := Datum.isWhole_eq_true_iff.mp hsu
    cases hcu : cu.isWhole with
    | false =>
      refine Or.inr ⟨cu, by simp [odd?, operands, hsu, hcu], hcu, fun fault h => ?_⟩
      exact compareWith_of_first (compareTexts_of_right h u)
    | true =>
      obtain ⟨v, rfl⟩ := Datum.isWhole_eq_true_iff.mp hcu
      cases hsp : sp.isWhole with
      | false =>
        refine Or.inr ⟨sp, by simp [odd?, operands, hsu, hcu, hsp], hsp, fun fault h => ?_⟩
        exact compareWith_of_second rfl rfl (compareTexts_of_left h cp)
      | true =>
        obtain ⟨p, rfl⟩ := Datum.isWhole_eq_true_iff.mp hsp
        cases hcp : cp.isWhole with
        | false =>
          refine Or.inr ⟨cp, by simp [odd?, operands, hsu, hcu, hsp, hcp], hcp, fun fault h => ?_⟩
          exact compareWith_of_second rfl rfl (compareTexts_of_right h p)
        | true =>
          obtain ⟨q, rfl⟩ := Datum.isWhole_eq_true_iff.mp hcp
          exact Or.inl ⟨u, p, v, q, rfl, rfl⟩

/-- What comes of comparing a pair with the configured one. -/
inductive Finding where
  /-- This is the first that is no whole text. -/
  | odd (v : Datum)
  | different (u p : String)
  | same (u : String)

def Finds (configured submitted : Credential) : Finding → Prop
  | .odd v => configured.odd? submitted = some v
  | .different u p => submitted = ⟨.text u, .text p⟩ ∧
    ∃ cu cp, configured = ⟨.text cu, .text cp⟩ ∧ ¬ (u = cu ∧ p = cp)
  | .same u => ∃ p, submitted = ⟨.text u, .text p⟩ ∧ configured = ⟨.text u, .text p⟩

theorem exists_finds (configured submitted : Credential) :
    ∃ finding, configured.Finds submitted finding := by
  rcases configured.compareWith_cases submitted with ⟨u, p, cu, cp, rfl, rfl⟩ | ⟨v, hv, _⟩
  · by_cases heq : u = cu ∧ p = cp
    · obtain ⟨rfl, rfl⟩ := heq
      exact ⟨.same u, p, rfl, rfl⟩
    · exact ⟨.different u p, rfl, cu, cp, rfl, heq⟩
  · exact ⟨.odd v, hv⟩

theorem Finds.exists_fault {v : Datum} (h : configured.Finds submitted (.odd v)) :
    ∃ fault, configured.compareWith submitted = .error fault ∧
      ((v.isText = false ∧ fault = .notText .encoded v.kind) ∨
        ∃ t, v = .ragged t ∧ fault = t.fault) := by
  rcases configured.compareWith_cases submitted with
    ⟨u, p, cu, cp, rfl, rfl⟩ | ⟨w, hw, hodd, hfault⟩
  · cases h
  · obtain rfl := Option.some.inj (h.symm.trans hw)
    rcases Datum.odd_cases hodd with ⟨hkind, hwhole⟩ | ⟨t, ht, hwhole⟩
    · exact ⟨_, hfault _ hwhole, Or.inl ⟨hkind, rfl⟩⟩
    · exact ⟨_, hfault _ hwhole, Or.inr ⟨t, ht, rfl⟩⟩

theorem Finds.compareWith_of_different {u p : String}
    (h : configured.Finds submitted (.different u p)) :
    configured.compareWith submitted = .ok ⟨u, p, false⟩ := by
  obtain ⟨rfl, cu, cp, rfl, hne⟩ := h
  rw [compareWith_texts, decide_eq_false hne]

theorem Finds.compareWith_of_same {u : String} (h : configured.Finds submitted (.same u)) :
    ∃ p, configured.compareWith submitted = .ok ⟨u, p, true⟩ := by
  obtain ⟨p, rfl, rfl⟩ := h
  exact ⟨p, by rw [compareWith_texts, decide_eq_true ⟨rfl, rfl⟩]⟩

theorem Finds.unique {finding other : Finding} (h : configured.Finds submitted finding)
    (h' : configured.Finds submitted other) : finding = other := by
  cases finding with
  | odd v =>
    cases other with
    | odd w => rw [Option.some.inj (h.symm.trans h')]
    | different u p =>
      obtain ⟨rfl, cu, cp, rfl, _⟩ := h'
      cases h
    | same u =>
      obtain ⟨p, rfl, rfl⟩ := h'
      cases h
  | different u p =>
    obtain ⟨rfl, cu, cp, rfl, hne⟩ := h
    cases other with
    | odd v => cases h'
    | different v q =>
      cases h'.1
      rfl
    | same v =>
      obtain ⟨q, hsub, hconf⟩ := h'
      cases hsub
      cases hconf
      exact absurd ⟨rfl, rfl⟩ hne
  | same u =>
    obtain ⟨p, rfl, rfl⟩ := h
    cases other with
    | odd v => cases h'
    | different v q =>
      obtain ⟨hsub, cu, cp, hconf, hne⟩ := h'
      cases hsub
      cases hconf
      exact absurd ⟨rfl, rfl⟩ hne
    | same v =>
      obtain ⟨q, hsub, _⟩ := h'
      cases hsub
      rfl

end Credential

/-- What a login with a payload comes to. -/
inductive Verdict where
  | malformed (flaw : Flaw)
  | compared (finding : Credential.Finding)

/-- An outcome as the caller reads it, part by part. -/
structure Outcome.Parts where
  phase : Phase
  status : Nat
  view? : Option FormView
  location : Value
  refusal? : Option Refusal

def Outcome.parts (o : Outcome) : Outcome.Parts :=
  ⟨o.phase, o.status, o.view?, o.location, o.refusal?⟩

namespace Gate

/-- The verdict that fits a payload. -/
def Gives (gate : Gate) (payload : Datum) : Verdict → Prop
  | .malformed flaw => (∀ pair, ¬ Submission.Holds payload pair) ∧ Submission.Lacks payload flaw
  | .compared finding => ∃ pair, Submission.Holds payload pair ∧ gate.configured.Finds pair finding

/-- What is answered, left in the session and logged for each verdict. What cannot be encoded is a
fault: a value that is no text, and a text in which half of a surrogate pair stands alone. -/
def Carries (gate : Gate) (session : Session) (target origin : Value) (reply : Reply Outcome) :
    Verdict → Prop
  | .malformed flaw =>
    reply.result.map Outcome.parts = .ok ⟨.failed, 400,
      some ⟨.ofFields [("username", .text ""), ("password", .text "")], .null,
        .text "Invalid login payload"⟩, .null, some .malformedPayload⟩ ∧
    reply.session = session ∧ reply.log = [.malformed origin flaw]
  | .compared (.odd v) =>
    ((v.isText = false ∧ reply.result = .error (.notText .encoded v.kind)) ∨
      ∃ t, v = .ragged t ∧ reply.result = .error t.fault) ∧
    reply.session = session ∧ reply.log = []
  | .compared (.different u p) =>
    reply.result.map Outcome.parts = .ok ⟨.failed, 401,
      some ⟨.ofFields [("username", .text u), ("password", .text p)], target,
        .text "Invalid credentials"⟩, .null, some .wrongCredentials⟩ ∧
    reply.session = session ∧ reply.log = [.rejected origin]
  | .compared (.same u) =>
    reply.result.map Outcome.parts = .ok ⟨.loggedIn, 302, none,
      Target.resolve target gate.landing, none⟩ ∧
    reply.session.get? "dashboard_auth" =
      some (.ofFields [("authenticated", .bool true), ("username", .text u)]) ∧
    reply.session.erase "dashboard_auth" = session.erase "dashboard_auth" ∧
    reply.log = [.login origin]

variable {gate : Gate} {payload : Datum} {verdict : Verdict} {pair : Credential}

theorem exists_verdict (gate : Gate) (payload : Datum) : ∃ verdict, gate.Gives payload verdict := by
  rcases Submission.holds_or_lacks payload with ⟨pair, hholds⟩ | ⟨flaw, hlacks⟩
  · obtain ⟨finding, hfinds⟩ := gate.configured.exists_finds pair
    exact ⟨.compared finding, pair, hholds, hfinds⟩
  · exact ⟨.malformed flaw, fun pair hholds => hholds.not_lacks hlacks, hlacks⟩

theorem Gives.unique {other : Verdict} (h : gate.Gives payload verdict)
    (h' : gate.Gives payload other) : verdict = other := by
  cases verdict with
  | malformed flaw =>
    cases other with
    | malformed flaw' => rw [h.2.unique h'.2]
    | compared finding =>
      obtain ⟨pair, hholds, _⟩ := h'
      exact absurd hholds (h.1 pair)
  | compared finding =>
    obtain ⟨pair, hholds, hfinds⟩ := h
    cases other with
    | malformed flaw => exact absurd hholds (h'.1 pair)
    | compared finding' =>
      obtain ⟨pair', hholds', hfinds'⟩ := h'
      obtain rfl := hholds.unique hholds'
      rw [hfinds.unique hfinds']

theorem login_of_lacks {flaw : Flaw} (h : Submission.Lacks payload flaw) (gate : Gate)
    (session : Session) (target origin : Value) :
    gate.login session payload target origin =
      ⟨.ok (.refused .malformedPayload
        (.make .null .null (.text Refusal.malformedPayload.notice))), session, false,
        [.malformed origin flaw]⟩ := by
  have hsub : Submission.ofPayload payload target = .error flaw :=
    Submission.ofPayload_of_lacks h
  simp only [login, hsub]

/-- A login with a pair is what comes of comparing the pair. -/
theorem login_of_holds (h : Submission.Holds payload pair) (gate : Gate) (session : Session)
    (target origin : Value) :
    gate.login session payload target origin = match gate.configured.compareWith pair with
      | .error fault => .same (.error fault) session
      | .ok ⟨u, p, false⟩ => ⟨.ok (.refused .wrongCredentials
          (.returned u p target Refusal.wrongCredentials.notice)), session, false,
          [.rejected origin]⟩
      | .ok ⟨u, _, true⟩ => ⟨.ok (.admitted (Target.resolve target gate.landing)),
          session.withRecord (.text u), true, [.login origin]⟩ := by
  obtain ⟨username, password⟩ := pair
  have hsub : Submission.ofPayload payload target = .ok ⟨username, password, target⟩ :=
    Submission.ofPayload_of_holds h
  cases hcompare : gate.configured.compareWith ⟨username, password⟩ with
  | error fault => simp only [login, hsub, Submission.credential, hcompare]
  | ok c =>
    obtain ⟨u, p, accepted⟩ := c
    cases accepted with
    | false => simp only [login, hsub, Submission.credential, hcompare]
    | true => simp only [login, hsub, Submission.credential, hcompare]

theorem carries_login (h : gate.Gives payload verdict) (session : Session) (target origin : Value) :
    gate.Carries session target origin (gate.login session payload target origin) verdict := by
  cases verdict with
  | malformed flaw =>
    rw [login_of_lacks h.2]
    exact ⟨rfl, rfl, rfl⟩
  | compared finding =>
    obtain ⟨pair, hholds, hfinds⟩ := h
    rw [login_of_holds hholds]
    cases finding with
    | odd v =>
      obtain ⟨fault, hfault, ⟨hkind, rfl⟩ | ⟨t, rfl, rfl⟩⟩ := hfinds.exists_fault
      · rw [hfault]
        exact ⟨Or.inl ⟨hkind, rfl⟩, rfl, rfl⟩
      · rw [hfault]
        exact ⟨Or.inr ⟨t, rfl, rfl⟩, rfl, rfl⟩
    | different u p =>
      rw [hfinds.compareWith_of_different]
      exact ⟨rfl, rfl, rfl⟩
    | same u =>
      obtain ⟨p, hsame⟩ := hfinds.compareWith_of_same
      rw [hsame]
      exact ⟨rfl, Session.get?_insert_self _ _ _, Session.erase_insert _ _ _, rfl⟩

/-- The same fault, a yes where the login is admitted, and the same session afterwards. -/
theorem vouch_of_holds (h : Submission.Holds payload pair) (gate : Gate)
    (session : Session) (target origin : Value) :
    (gate.vouch session pair).result =
        (gate.login session payload target origin).result.map (fun o => decide (o.status = 302)) ∧
      (gate.vouch session pair).session = (gate.login session payload target origin).session ∧
      (gate.vouch session pair).log = [] := by
  obtain ⟨_, _, _, _, _, _, hu, hp⟩ := id h
  have hadmitted : gate.configured.admitted? pair = (gate.configured.compareWith pair).map fun c =>
      if c.accepted then some c.username else none := by
    rw [Credential.admitted?, hu, hp]
    rfl
  rw [login_of_holds h, vouch, hadmitted]
  cases gate.configured.compareWith pair with
  | error fault => exact ⟨rfl, rfl, rfl⟩
  | ok c =>
    obtain ⟨u, p, accepted⟩ := c
    cases accepted with
    | false => exact ⟨rfl, rfl, rfl⟩
    | true => exact ⟨rfl, rfl, rfl⟩

theorem vouch_of_not_texts (h : ¬ (pair.username.isText = true ∧ pair.password.isText = true))
    (gate : Gate) (session : Session) : gate.vouch session pair = .same (.ok false) session := by
  have hadmitted : gate.configured.admitted? pair = .ok none := by
    rw [Credential.admitted?, if_neg (by simpa using h)]
  simp only [vouch, hadmitted]

/-- A login with any payload comes to one verdict, which says all of its reply. What else is in the
payload does not matter, and a pair that did not come through the form is judged in the same way. -/
theorem login_verdict (gate : Gate) (session : Session) (payload : Datum) (target origin : Value) :
    (∃! verdict, gate.Gives payload verdict) ∧
    (∀ verdict, gate.Gives payload verdict →
      gate.Carries session target origin (gate.login session payload target origin) verdict) ∧
    (∀ other, Submission.SameFields payload other →
      gate.login session other target origin = gate.login session payload target origin) ∧
    (∀ pair, Submission.Holds payload pair →
      (gate.vouch session pair).result =
        (gate.login session payload target origin).result.map (fun o => decide (o.status = 302)) ∧
      (gate.vouch session pair).session = (gate.login session payload target origin).session ∧
      (gate.vouch session pair).log = []) ∧
    ∀ pair : Credential, ¬ (pair.username.isText = true ∧ pair.password.isText = true) →
      gate.vouch session pair = .same (.ok false) session := by
  refine ⟨?_, ?_, ?_, ?_, ?_⟩
  · obtain ⟨verdict, hgives⟩ := gate.exists_verdict payload
    exact ⟨verdict, hgives, fun other hother => hother.unique hgives⟩
  · exact fun verdict hgives => carries_login hgives session target origin
  · intro other hsame
    simp only [login, hsame.ofPayload_eq]
  · exact fun pair hholds => vouch_of_holds hholds gate session target origin
  · exact fun pair hpair => vouch_of_not_texts hpair gate session

theorem login_verdict_forged :
    let gate : Gate := ⟨⟨.text "admin", .text "correct"⟩, .text "/home", .text "/login"⟩
    let session : Session := ⟨[(.text "theme", .int 3), (.text "dashboard_auth", .text "forged")]⟩
    let payload := Datum.ofFields [("next", .null), ("session", .ofFields
      [("remember", .bool true), ("username", .text "admin"), ("password", .text "correct")])]
    let plain := Datum.ofFields
      [("session", .ofFields [("username", .text "admin"), ("password", .text "correct")])]
    gate.Carries session (.text "//x") .null (gate.login session payload (.text "//x") .null)
        (.compared (.same "admin")) ∧
      gate.login session plain (.text "//x") .null = gate.login session payload (.text "//x") .null ∧
      (gate.vouch session ⟨.text "admin", .text "correct"⟩).result = .ok true ∧
      (gate.vouch session ⟨.text "admin", .int 5⟩).result = .ok false := by
  intro gate session payload plain
  have hholds : Submission.Holds payload ⟨.text "admin", .text "correct"⟩ :=
    ⟨_, _, rfl, rfl, rfl, rfl, rfl, rfl⟩
  have hsame : Submission.SameFields payload plain :=
    ⟨_, _, rfl, rfl, Or.inr ⟨_, _, rfl, rfl, rfl, rfl⟩⟩
  obtain ⟨_, hcarries, hplain, hvouch, hpair⟩ :=
    gate.login_verdict session payload (.text "//x") .null
  have hright := hcarries (.compared (.same "admin")) ⟨_, hholds, "correct", rfl, rfl⟩
  refine ⟨hright, hplain plain hsame, ?_, ?_⟩
  · rw [(hvouch _ hholds).1]
    rfl
  · rw [hpair ⟨.text "admin", .int 5⟩ (by decide)]
    rfl

/-- So a pair of texts is not always told from the configured pair of texts: one that cannot be encoded
ends the login, and nothing is answered or logged. -/
theorem login_not_refused :
    let gate : Gate := ⟨⟨.text "admin", .text "correct"⟩, .text "/", .text "/login"⟩
    let payload := Datum.ofFields
      [("session", .ofFields [("username", .ragged .loneHalf), ("password", .text "x")])]
    Submission.Holds payload ⟨.ragged .loneHalf, .text "x"⟩ ∧
      (¬ ∃ outcome, (gate.login ∅ payload .null .null).result = .ok outcome) ∧
      (∀ kind, (gate.login ∅ payload .null .null).result ≠ .error (.notText .encoded kind)) ∧
      (gate.login ∅ payload .null .null).log = [] ∧
      RaggedText.loneHalf.fault.message =
        "'utf-8' codec can't encode character '\\ud800' in position 0: surrogates not allowed" := by
  intro gate payload
  have hresult : (gate.login ∅ payload .null .null).result = .error RaggedText.loneHalf.fault := rfl
  refine ⟨⟨_, _, rfl, rfl, rfl, rfl, rfl, rfl⟩, ?_, ?_, rfl, by decide +kernel⟩
  · rintro ⟨outcome, houtcome⟩
    rw [hresult] at houtcome
    cases houtcome
  · intro kind hkind
    rw [hresult] at hkind
    cases hkind

end Gate

end Gatehouse
