import Gatehouse.Proofs.Gate.Verdict
import Mathlib.Data.Set.Function

namespace Gatehouse.Credential

section

variable {δ : Type}

/-- The octets of different texts have different digests. -/
def TellsApart (digest : List UInt8 → δ) : Prop :=
  Set.InjOn digest (Set.range fun s : String => Utf8.encode s.toList)

/-- A digest that starts with a key and goes on with all octets loses nothing. -/
theorem tellsApart_of_key (key : List UInt8) : TellsApart (key ++ ·) :=
  fun _ _ _ _ h => List.append_cancel_left h

theorem TellsApart.eq_iff {digest : List UInt8 → δ} (h : TellsApart digest) {s t : String} :
    digest (Utf8.encode s.toList) = digest (Utf8.encode t.toList) ↔
      Utf8.encode s.toList = Utf8.encode t.toList :=
  Set.InjOn.eq_iff h ⟨s, rfl⟩ ⟨t, rfl⟩

variable [DecidableEq δ] (digest : List UInt8 → δ)

/-- Whether the octets of two texts have the same digest. The left one is looked at first. -/
def agreeBy (left right : Datum) : Except Fault Bool := do
  let l ← left.whole
  let r ← right.whole
  return digest (Utf8.encode l.toList) = digest (Utf8.encode r.toList)

/-- `accepts` with digests in the place of octets. Both fields are compared, also when the first of
them has already settled it. -/
def acceptsBy (configured submitted : Credential) : Except Fault Bool :=
  if submitted.username.isText && submitted.password.isText then do
    let first ← agreeBy digest submitted.username configured.username
    let second ← agreeBy digest submitted.password configured.password
    return first && second
  else .ok false

variable {digest}

theorem TellsApart.agreeBy_eq (h : TellsApart digest) (left right : Datum) :
    agreeBy digest left right = agree left right := by
  cases hl : left.whole with
  | error fault => simp only [agreeBy, agree, compareTexts, hl, bind, Except.bind, Except.map]
  | ok l =>
    cases hr : right.whole with
    | error fault =>
      simp only [agreeBy, agree, compareTexts, hl, hr, bind, Except.bind, Except.map]
    | ok r =>
      simp only [agreeBy, agree, compareTexts, hl, hr, bind, Except.bind, Except.map, h.eq_iff,
        pure, Except.pure]

theorem accepts_eq_agree (configured submitted : Credential) :
    configured.accepts submitted =
      if submitted.username.isText && submitted.password.isText then do
        let first ← agree submitted.username configured.username
        let second ← agree submitted.password configured.password
        return first && second
      else .ok false := by
  unfold accepts admitted? agree compareWith
  split
  next =>
    cases compareTexts submitted.username configured.username with
    | error fault => rfl
    | ok first =>
      cases compareTexts submitted.password configured.password with
      | error fault => rfl
      | ok second =>
        obtain ⟨u, a⟩ := first
        obtain ⟨p, b⟩ := second
        simp only [Except.map, bind, Except.bind, pure, Except.pure]
        cases a && b <;> rfl
  next => rfl

theorem TellsApart.acceptsBy_eq (h : TellsApart digest) (configured submitted : Credential) :
    acceptsBy digest configured submitted = configured.accepts submitted := by
  simp only [acceptsBy, accepts_eq_agree, h.agreeBy_eq]

end

theorem accepts_of_not_texts {submitted : Credential}
    (h : ¬ (submitted.username.isText = true ∧ submitted.password.isText = true))
    (configured : Credential) : configured.accepts submitted = .ok false := by
  rw [accepts_eq_agree, if_neg (by simpa using h)]

theorem accepts_texts_toList (u p cu cp : String) :
    accepts ⟨.text cu, .text cp⟩ ⟨.text u, .text p⟩ =
      .ok (decide (u.toList = cu.toList ∧ p.toList = cp.toList)) := by
  rw [accepts_texts]
  simp only [String.toList_inj]

theorem lacks_encode (kind : Kind) :
    (Fault.notText .encoded kind).message =
      "'" ++ kind.name ++ "' object has no attribute 'encode'" := by
  cases kind <;> rfl

/-- Of two submitted texts, and what they are compared with, the first that cannot be encoded is the
fault. -/
theorem accepts_of_odd? {configured submitted : Credential} {v : Datum}
    (hu : submitted.username.isText = true) (hp : submitted.password.isText = true)
    (hv : configured.odd? submitted = some v) :
    (v.isText = false ∧ configured.accepts submitted = .error (.notText .encoded v.kind)) ∨
      ∃ t, v = .ragged t ∧ configured.accepts submitted = .error t.fault := by
  have hfaulty : ∀ fault, configured.compareWith submitted = .error fault →
      configured.accepts submitted = .error fault := by
    intro fault hfault
    rw [accepts, admitted?, hu, hp, hfault]
    rfl
  obtain ⟨fault, hfault, ⟨hkind, rfl⟩ | ⟨t, ht, rfl⟩⟩ := Finds.exists_fault hv
  · exact Or.inl ⟨hkind, hfaulty _ hfault⟩
  · exact Or.inr ⟨t, ht, hfaulty _ hfault⟩

/-- A pair is compared by digests just as by its texts. What is no pair of texts is turned down. Of two
texts and the configured pair the first that cannot be encoded is a fault: where it is no text, one that
names its kind, and else one that names the half of a surrogate pair in it. All others are accepted if
they are, character by character, the configured ones. -/
theorem acceptsBy_exact {δ : Type} [DecidableEq δ] {digest : List UInt8 → δ}
    (h : TellsApart digest) (configured submitted : Credential) :
    acceptsBy digest configured submitted = configured.accepts submitted ∧
    (¬ (submitted.username.isText = true ∧ submitted.password.isText = true) →
      acceptsBy digest configured submitted = .ok false) ∧
    (submitted.username.isText = true → submitted.password.isText = true →
      (∀ v, configured.odd? submitted = some v →
        (v.isText = false ∧ ∃ fault, acceptsBy digest configured submitted = .error fault ∧
          fault = .notText .encoded v.kind ∧
          fault.message = "'" ++ v.kind.name ++ "' object has no attribute 'encode'") ∨
        ∃ t, v = .ragged t ∧ acceptsBy digest configured submitted = .error t.fault) ∧
      (configured.odd? submitted = none → ∃ u p cu cp, submitted = ⟨.text u, .text p⟩ ∧
        configured = ⟨.text cu, .text cp⟩ ∧
        acceptsBy digest configured submitted =
          .ok (decide (u.toList = cu.toList ∧ p.toList = cp.toList)))) := by
  rw [h.acceptsBy_eq]
  refine ⟨rfl, fun hnone => accepts_of_not_texts hnone configured, fun hu hp => ⟨?_, ?_⟩⟩
  · intro v hv
    rcases accepts_of_odd? hu hp hv with ⟨hkind, hfault⟩ | hragged
    · exact Or.inl ⟨hkind, _, hfault, rfl, lacks_encode v.kind⟩
    · exact Or.inr hragged
  · intro hnone
    rcases configured.compareWith_cases submitted with ⟨u, p, cu, cp, rfl, rfl⟩ | ⟨v, hv, _⟩
    · exact ⟨u, p, cu, cp, rfl, rfl, accepts_texts_toList u p cu cp⟩
    · rw [hnone] at hv
      cases hv

/-- One letter written in two ways is two texts, a pair the other way round is another pair, and a
number in the configured pair is a fault though the username is wrong already. -/
theorem acceptsBy_exact_keyed :
    let digest : List UInt8 → List UInt8 := ([0x6B, 0x65, 0x79] ++ ·)
    acceptsBy digest ⟨.text "caf\u00e9", .text "x"⟩ ⟨.text "cafe\u0301", .text "x"⟩ = .ok false ∧
      acceptsBy digest ⟨.text "ab", .text "c"⟩ ⟨.text "c", .text "ab"⟩ = .ok false ∧
      acceptsBy digest ⟨.text "ab", .text "c"⟩ ⟨.text "ab", .text "c"⟩ = .ok true ∧
      acceptsBy digest ⟨.text "ab", .null⟩ ⟨.bytes [0x61], .text "c"⟩ = .ok false ∧
      ∃ fault, acceptsBy digest ⟨.text "ab", .int 5⟩ ⟨.text "a", .text "5"⟩ = .error fault ∧
        fault.message = "'int' object has no attribute 'encode'" := by
  intro digest
  have hapart : TellsApart digest := tellsApart_of_key _
  have htexts : ∀ u p cu cp, acceptsBy digest ⟨.text cu, .text cp⟩ ⟨.text u, .text p⟩ =
      .ok (decide (u.toList = cu.toList ∧ p.toList = cp.toList)) := by
    intro u p cu cp
    obtain ⟨_, _, _, _, hsub, hconf, hresult⟩ :=
      ((acceptsBy_exact hapart ⟨.text cu, .text cp⟩ ⟨.text u, .text p⟩).2.2 rfl rfl).2 rfl
    cases hsub
    cases hconf
    exact hresult
  refine ⟨htexts .., htexts .., htexts .., ?_, ?_⟩
  · exact (acceptsBy_exact hapart _ _).2.1 (by decide)
  · rcases ((acceptsBy_exact hapart ⟨.text "ab", .int 5⟩ ⟨.text "a", .text "5"⟩).2.2 rfl rfl).1 _ rfl
      with ⟨_, fault, hfault, _, hmessage⟩ | ⟨t, ht, _⟩
    · exact ⟨fault, hfault, hmessage⟩
    · cases ht

/-- So a text that is not the configured one is not always turned down. -/
theorem acceptsBy_not_exact :
    let digest : List UInt8 → List UInt8 := ([0x6B, 0x65, 0x79] ++ ·)
    TellsApart digest ∧
      acceptsBy digest ⟨.text "admin", .text "correct"⟩ ⟨.ragged .loneHalf, .text "x"⟩ =
        .error RaggedText.loneHalf.fault ∧
      RaggedText.loneHalf.fault.message =
        "'utf-8' codec can't encode character '\\ud800' in position 0: surrogates not allowed" :=
  ⟨tellsApart_of_key _, rfl, by decide +kernel⟩

end Gatehouse.Credential
