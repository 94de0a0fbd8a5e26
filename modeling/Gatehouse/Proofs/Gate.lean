import Gatehouse.Gate.Basic
import Gatehouse.Text.Utf8.Lemmas

namespace Gatehouse

/-- Half of a surrogate pair and nothing else. -/
def RaggedText.loneHalf : RaggedText := ⟨[.half 0xD800 rfl], rfl⟩

namespace Datum

theorem whole_eq_ok_iff {v : Datum} {s : String} : v.whole = .ok s ↔ v = .text s := by
  cases v <;> simp [whole]

end Datum

namespace Credential

theorem encode_inj {s t : String} : Utf8.encode s.toList = Utf8.encode t.toList ↔ s = t :=
  ⟨fun h => String.toList_injective (Utf8.encode_injective h), fun h => by rw [h]⟩

theorem compareTexts_texts (s t : String) :
    compareTexts (.text s) (.text t) = .ok (s, decide (s = t)) := by
  have hcompare : compareTexts (.text s) (.text t) =
      .ok (s, decide (Utf8.encode s.toList = Utf8.encode t.toList)) := rfl
  rw [hcompare, decide_eq_decide.mpr encode_inj]

/-- Only whole texts can be compared. -/
theorem texts_of_compareTexts {left right : Datum} {s : String} {b : Bool}
    (h : compareTexts left right = .ok (s, b)) :
    left = .text s ∧ ∃ t, right = .text t ∧ b = decide (s = t) := by
  cases hl : left.whole with
  | error fault => simp [compareTexts, hl, bind, Except.bind] at h
  | ok l =>
    cases hr : right.whole with
    | error fault => simp [compareTexts, hl, hr, bind, Except.bind] at h
    | ok r =>
      obtain rfl := Datum.whole_eq_ok_iff.mp hl
      obtain rfl := Datum.whole_eq_ok_iff.mp hr
      rw [compareTexts_texts] at h
      obtain ⟨rfl, rfl⟩ := Prod.mk.inj (Except.ok.inj h)
      exact ⟨rfl, r, rfl, rfl⟩

theorem compareWith_texts (u p cu cp : String) :
    compareWith ⟨.text cu, .text cp⟩ ⟨.text u, .text p⟩ =
      .ok ⟨u, p, decide (u = cu ∧ p = cp)⟩ := by
  simp only [compareWith, compareTexts_texts, bind, Except.bind, pure, Except.pure,
    Bool.decide_and]

theorem texts_of_compareWith {configured submitted : Credential} {c : Comparison}
    (h : configured.compareWith submitted = .ok c) :
    submitted = ⟨.text c.username, .text c.password⟩ ∧
      ∃ cu cp, configured = ⟨.text cu, .text cp⟩ ∧
        c.accepted = decide (c.username = cu ∧ c.password = cp) := by
  obtain ⟨su, sp⟩ := submitted
  obtain ⟨cu, cp⟩ := configured
  cases hfirst : compareTexts su cu with
  | error fault => simp [compareWith, hfirst, bind, Except.bind] at h
  | ok first =>
    cases hsecond : compareTexts sp cp with
    | error fault => simp [compareWith, hfirst, hsecond, bind, Except.bind] at h
    | ok second =>
      obtain ⟨rfl, t, rfl, _⟩ := texts_of_compareTexts hfirst
      obtain ⟨rfl, w, rfl, _⟩ := texts_of_compareTexts hsecond
      rw [compareWith_texts] at h
      obtain rfl := Except.ok.inj h
      exact ⟨rfl, t, w, rfl, rfl⟩

/-- Two pairs of texts can always be compared. -/
theorem admitted?_texts (u p cu cp : String) :
    admitted? ⟨.text cu, .text cp⟩ ⟨.text u, .text p⟩ =
      .ok (if u = cu ∧ p = cp then some u else none) := by
  have hadmitted : admitted? ⟨.text cu, .text cp⟩ ⟨.text u, .text p⟩ =
      (compareWith ⟨.text cu, .text cp⟩ ⟨.text u, .text p⟩).map fun c =>
        if c.accepted then some c.username else none := rfl
  rw [hadmitted, compareWith_texts]
  simp only [Except.map, decide_eq_true_eq]

theorem compareTexts_of_left {left : Datum} {fault : Fault} (h : left.whole = .error fault)
    (right : Datum) : compareTexts left right = .error fault := by
  rw [compareTexts, h]
  rfl

theorem compareTexts_of_right {right : Datum} {fault : Fault} (h : right.whole = .error fault)
    (s : String) : compareTexts (.text s) right = .error fault := by
  rw [compareTexts, h]
  rfl

theorem compareWith_of_first {configured submitted : Credential} {fault : Fault}
    (h : compareTexts submitted.username configured.username = .error fault) :
    configured.compareWith submitted = .error fault := by
  rw [compareWith, h]
  rfl

theorem compareWith_of_second {configured submitted : Credential} {u cu : String} {fault : Fault}
    (hu : submitted.username = .text u) (hcu : configured.username = .text cu)
    (h : compareTexts submitted.password configured.password = .error fault) :
    configured.compareWith submitted = .error fault := by
  rw [compareWith, hu, hcu, compareTexts_texts, h]
  rfl

/-- The fault of the first value of a pair that is no whole text. -/
def fault? (c : Credential) : Option Fault :=
  match c.username.whole, c.password.whole with
  | .error fault, _ => some fault
  | .ok _, .error fault => some fault
  | .ok _, .ok _ => none

theorem texts_of_fault?_eq_none {c : Credential} (h : c.fault? = none) :
    ∃ u p, c = ⟨.text u, .text p⟩ := by
  obtain ⟨username, password⟩ := c
  unfold fault? at h
  split at h
  next => cases h
  next => cases h
  next u p hu hp =>
    obtain rfl := Datum.whole_eq_ok_iff.mp hu
    obtain rfl := Datum.whole_eq_ok_iff.mp hp
    exact ⟨u, p, rfl⟩

theorem compareWith_of_fault? {c : Credential} {fault : Fault} (h : c.fault? = some fault)
    (cu cp : String) : compareWith ⟨.text cu, .text cp⟩ c = .error fault := by
  obtain ⟨username, password⟩ := c
  unfold fault? at h
  split at h
  next hu =>
    obtain rfl := Option.some.inj h
    exact compareWith_of_first (compareTexts_of_left hu _)
  next hu hp =>
    obtain rfl := Option.some.inj h
    obtain rfl := Datum.whole_eq_ok_iff.mp hu
    exact compareWith_of_second rfl rfl (compareTexts_of_left hp _)
  next => cases h

theorem accepts_texts (u p cu cp : String) :
    accepts ⟨.text cu, .text cp⟩ ⟨.text u, .text p⟩ = .ok (decide (u = cu ∧ p = cp)) := by
  rw [accepts, admitted?_texts]
  by_cases h : u = cu ∧ p = cp
  · rw [if_pos h, decide_eq_true h]
    rfl
  · rw [if_neg h, decide_eq_false h]
    rfl

theorem admitted?_eq_some_iff {configured submitted : Credential} {u : String} :
    configured.admitted? submitted = .ok (some u) ↔
      ∃ p, submitted = ⟨.text u, .text p⟩ ∧ configured = ⟨.text u, .text p⟩ := by
  constructor
  · intro h
    unfold admitted? at h
    split at h
    next =>
      cases hcompare : configured.compareWith submitted with
      | error fault => simp [hcompare, Except.map] at h
      | ok c =>
        obtain ⟨hsub, cu, cp, hconf, haccepted⟩ := texts_of_compareWith hcompare
        rw [hcompare] at h
        simp only [Except.map, haccepted, Except.ok.injEq, Option.ite_none_right_eq_some,
          Option.some.injEq, decide_eq_true_eq] at h
        obtain ⟨⟨rfl, rfl⟩, rfl⟩ := h
        exact ⟨_, hsub, hconf⟩
    next => simp at h
  · rintro ⟨p, rfl, rfl⟩
    simp [admitted?_texts]

end Credential

namespace Submission

/-- A submission keeps the target, and holds texts. -/
theorem of_ofPayload {payload : Datum} {target : Value} {s : Submission}
    (h : ofPayload payload target = .ok s) :
    s.target = target ∧ s.username.isText = true ∧ s.password.isText = true := by
  unfold ofPayload at h
  split at h
  next =>
    split at h
    next =>
      split at h
      next =>
        split at h
        next htexts =>
          obtain rfl := Except.ok.inj h
          exact ⟨rfl, by simpa using htexts⟩
        next => simp at h
      next => simp at h
    next => simp at h
  next => simp at h

theorem target_of_ofPayload {payload : Datum} {target : Value} {s : Submission}
    (h : ofPayload payload target = .ok s) : s.target = target :=
  (of_ofPayload h).1

/-- Whether a payload holds a pair does not depend on the target. -/
theorem ofPayload_eq_map (payload : Datum) (target : Value) :
    ofPayload payload target = (ofPayload payload .null).map fun s => { s with target } := by
  unfold ofPayload
  split
  next =>
    split
    next =>
      split
      next =>
        split
        next => rfl
        next => rfl
      next => rfl
    next => rfl
  next => rfl

theorem ofPayload_retarget {payload : Datum} {target : Value} {u p : Datum}
    (h : ofPayload payload target = .ok ⟨u, p, target⟩) (asked : Value) :
    ofPayload payload asked = .ok ⟨u, p, asked⟩ := by
  rw [ofPayload_eq_map] at h ⊢
  cases hread : ofPayload payload .null with
  | error flaw => simp [hread, Except.map] at h
  | ok s =>
    rw [hread] at h
    obtain ⟨rfl, rfl, _⟩ := mk.inj (Except.ok.inj h)
    rfl

end Submission

namespace Gate

/-- A login is refused for its payload or for its pair, or cannot be checked, or else its pair is
the configured one and the session gets a record. -/
theorem login_cases (gate : Gate) (session : Session) (payload : Datum) (target origin : Value) :
    (∃ flaw, Submission.ofPayload payload target = .error flaw ∧
      gate.login session payload target origin =
        ⟨.ok (.refused .malformedPayload
          (.make .null .null (.text Refusal.malformedPayload.notice))), session, false,
          [.malformed origin flaw]⟩) ∨
    (∃ fault, gate.login session payload target origin = .same (.error fault) session) ∨
    (∃ u p, Submission.ofPayload payload target = .ok ⟨.text u, .text p, target⟩ ∧
      gate.login session payload target origin =
        ⟨.ok (.refused .wrongCredentials
          (.returned u p target Refusal.wrongCredentials.notice)), session, false,
          [.rejected origin]⟩) ∨
    (∃ u p, Submission.ofPayload payload target = .ok ⟨.text u, .text p, target⟩ ∧
      gate.configured = ⟨.text u, .text p⟩ ∧
      gate.login session payload target origin =
        ⟨.ok (.admitted (Target.resolve target gate.landing)), session.withRecord (.text u), true,
          [.login origin]⟩) := by
  unfold login
  cases hs : Submission.ofPayload payload target with
  | error flaw => exact Or.inl ⟨flaw, rfl, rfl⟩
  | ok submission =>
    obtain ⟨username, password, asked⟩ := submission
    obtain rfl : asked = target := Submission.target_of_ofPayload hs
    dsimp only [Submission.credential]
    split
    next fault _ => exact Or.inr (Or.inl ⟨fault, rfl⟩)
    next u p h =>
      obtain ⟨hsub, _⟩ := Credential.texts_of_compareWith h
      obtain ⟨rfl, rfl⟩ := Credential.mk.inj hsub
      exact Or.inr (Or.inr (Or.inl ⟨u, p, rfl, rfl⟩))
    next u p h =>
      obtain ⟨hsub, cu, cp, hconf, haccepted⟩ := Credential.texts_of_compareWith h
      obtain ⟨rfl, rfl⟩ := Credential.mk.inj hsub
      obtain ⟨rfl, rfl⟩ : u = cu ∧ p = cp := by simpa using haccepted
      exact Or.inr (Or.inr (Or.inr ⟨u, p, rfl, hconf, rfl⟩))

section Texts

variable {gate : Gate} {u p cu cp : String}

theorem login_of_configured (hconf : gate.configured = ⟨.text u, .text p⟩)
    {payload : Datum} {target : Value}
    (hsub : Submission.ofPayload payload target = .ok ⟨.text u, .text p, target⟩)
    (session : Session) (origin : Value) :
    gate.login session payload target origin =
      ⟨.ok (.admitted (Target.resolve target gate.landing)), session.withRecord (.text u), true,
        [.login origin]⟩ := by
  have hcompare : gate.configured.compareWith ⟨.text u, .text p⟩ = .ok ⟨u, p, true⟩ := by
    rw [hconf, Credential.compareWith_texts, decide_eq_true ⟨rfl, rfl⟩]
  simp only [login, hsub, Submission.credential, hcompare]

theorem vouch_of_configured (hconf : gate.configured = ⟨.text u, .text p⟩) (session : Session) :
    gate.vouch session ⟨.text u, .text p⟩ =
      ⟨.ok true, session.withRecord (.text u), true, []⟩ := by
  have hadmitted : gate.configured.admitted? ⟨.text u, .text p⟩ = .ok (some u) :=
    Credential.admitted?_eq_some_iff.mpr ⟨p, rfl, hconf⟩
  simp only [vouch, hadmitted]

/-- A login with another pair than the configured one is refused, and the view of the form holds what
was filled in. -/
theorem login_of_ne (hconf : gate.configured = ⟨.text cu, .text cp⟩) (hne : ¬ (u = cu ∧ p = cp))
    {payload : Datum} {target : Value}
    (hsub : Submission.ofPayload payload target = .ok ⟨.text u, .text p, target⟩)
    (session : Session) (origin : Value) :
    gate.login session payload target origin =
      ⟨.ok (.refused .wrongCredentials
        (.returned u p target Refusal.wrongCredentials.notice)), session, false,
        [.rejected origin]⟩ := by
  have hcompare : gate.configured.compareWith ⟨.text u, .text p⟩ = .ok ⟨u, p, false⟩ := by
    rw [hconf, Credential.compareWith_texts, decide_eq_false hne]
  simp only [login, hsub, Submission.credential, hcompare]

/-- Texts that cannot be encoded are compared with nothing. -/
theorem login_of_fault? (hconf : gate.configured = ⟨.text cu, .text cp⟩) {c : Credential}
    {fault : Fault} (hfault : c.fault? = some fault) {payload : Datum} {target : Value}
    (hsub : Submission.ofPayload payload target = .ok ⟨c.username, c.password, target⟩)
    (session : Session) (origin : Value) :
    gate.login session payload target origin = .same (.error fault) session := by
  have hcompare : gate.configured.compareWith ⟨c.username, c.password⟩ = .error fault := by
    rw [hconf]
    exact Credential.compareWith_of_fault? hfault cu cp
  simp only [login, hsub, Submission.credential, hcompare]

theorem vouch_of_ne (hconf : gate.configured = ⟨.text cu, .text cp⟩) (hne : ¬ (u = cu ∧ p = cp))
    (session : Session) :
    gate.vouch session ⟨.text u, .text p⟩ = .same (.ok false) session := by
  have hadmitted : gate.configured.admitted? ⟨.text u, .text p⟩ = .ok none := by
    rw [hconf, Credential.admitted?_texts, if_neg hne]
  simp only [vouch, hadmitted]

end Texts

theorem result_vouch (gate : Gate) (session : Session) (pair : Credential) :
    (gate.vouch session pair).result = gate.configured.accepts pair := by
  rw [vouch, Credential.accepts]
  cases gate.configured.admitted? pair with
  | error fault => rfl
  | ok name => cases name <;> rfl

/-- A pair that is vouched for is the configured one, and leaves its record; any other leaves the
session as it was. -/
theorem vouch_cases (gate : Gate) (session : Session) (pair : Credential) :
    (∃ result, gate.vouch session pair = .same result session ∧ result ≠ .ok true) ∨
    (∃ u p, pair = ⟨.text u, .text p⟩ ∧ gate.configured = ⟨.text u, .text p⟩ ∧
      gate.vouch session pair = ⟨.ok true, session.withRecord (.text u), true, []⟩) := by
  unfold vouch
  split
  next => exact Or.inl ⟨_, rfl, by simp⟩
  next => exact Or.inl ⟨_, rfl, by simp⟩
  next u h =>
    obtain ⟨p, rfl, hconf⟩ := Credential.admitted?_eq_some_iff.mp h
    exact Or.inr ⟨u, p, rfl, hconf, rfl⟩

end Gate

end Gatehouse
