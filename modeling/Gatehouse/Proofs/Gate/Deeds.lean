import Gatehouse.Gate.Run
import Gatehouse.Proofs.Gate
import Mathlib.Data.List.Induction

namespace Gatehouse

/-- The call asks the gate; it does not write into the session past it. -/
def Call.IsAsked : Call → Prop
  | .put _ _ => False
  | .remove _ => False
  | _ => True

/-- What a call can do to a session: leave the record of a login, or take the record away. -/
inductive Deed where
  | admitted
  | dismissed
  deriving DecidableEq, Repr

/-- What a call has done, by its result. A call that is refused or fails has done nothing. -/
def Call.deed? : Call → Except Fault Answer → Option Deed
  | .login .., .ok (.outcome (.admitted _)) => some .admitted
  | .vouch _, .ok (.value (.bool true)) => some .admitted
  | .logout _, .ok _ => some .dismissed
  | _, _ => none

namespace Gate

/-- What a call has done on the session of a name. -/
def deedOn? (name : String) (call : String × Call) (reply : Reply Answer) : Option Deed :=
  if call.1 = name then call.2.deed? reply.result else none

/-- The deeds that a run does on the session of a name, in order. -/
def deeds (gate : Gate) (sessions : Table Session) (calls : List (String × Call)) (name : String) :
    List Deed :=
  (List.zip calls (gate.run sessions calls).1).filterMap fun turn => deedOn? name turn.1 turn.2

/-- What a deed makes of a session. Only texts can be the right pair. -/
def Makes (gate : Gate) (before : Session) : Option Deed → Session → Prop
  | none, after => after = before
  | some .admitted, after =>
    ∃ u p, gate.configured = ⟨.text u, .text p⟩ ∧ after = before.withRecord (.text u)
  | some .dismissed, after => after = before.erase recordKey

/-- What is left of a session when the last deed on it is known: the record that the deed left, and all
else that was there before. -/
structure Leaves (gate : Gate) (before : Session) (last : Option Deed) (after : Session) :
    Prop where
  others : after.erase recordKey = before.erase recordKey
  record : match last with
    | none => after.get? recordKey = before.get? recordKey
    | some .admitted => ∃ u p, gate.configured = ⟨.text u, .text p⟩ ∧
      after.get? recordKey = some (loginRecord (.text u))
    | some .dismissed => after.get? recordKey = none

/-- A call of the gate does no more than its deed. -/
theorem answer_makes (gate : Gate) (session : Session) {call : Call} (h : call.IsAsked) :
    gate.Makes session (call.deed? (gate.answer session call).result)
      (gate.answer session call).session := by
  cases call with
  | showForm target => rfl
  | record => rfl
  | logout origin => rfl
  | put => exact h.elim
  | remove => exact h.elim
  | login payload target origin =>
    rw [answer]
    rcases gate.login_cases session payload target origin with
      ⟨_, _, hl⟩ | ⟨_, hl⟩ | ⟨_, _, _, hl⟩ | ⟨u, p, _, hconf, hl⟩
    · rw [hl]
      rfl
    · rw [hl]
      rfl
    · rw [hl]
      rfl
    · rw [hl]
      exact ⟨u, p, hconf, rfl⟩
  | vouch pair =>
    rw [answer]
    rcases gate.vouch_cases session pair with ⟨result, hv, hne⟩ | ⟨u, p, _, hconf, hv⟩
    · have hnone : Call.deed? (.vouch pair) (result.map fun b => .value (.bool b)) = none := by
        rcases result with _ | _ | _
        · rfl
        · rfl
        · exact absurd rfl hne
      rw [hv]
      change gate.Makes session (Call.deed? _ (result.map _)) session
      rw [hnone]
      rfl
    · rw [hv]
      exact ⟨u, p, hconf, rfl⟩

variable {gate : Gate} {before session after : Session} {last : Option Deed}

theorem leaves_self (gate : Gate) (session : Session) : gate.Leaves session none session :=
  ⟨rfl, rfl⟩

/-- A later deed hides an earlier one. -/
theorem Leaves.makes (h : gate.Leaves before last session) {deed : Option Deed}
    (hmakes : gate.Makes session deed after) : gate.Leaves before (deed.or last) after := by
  cases deed with
  | none =>
    obtain rfl : after = session := hmakes
    exact h
  | some deed =>
    cases deed with
    | admitted =>
      obtain ⟨u, p, hconf, rfl⟩ := hmakes
      refine ⟨?_, u, p, hconf, Session.get?_insert_self _ _ _⟩
      exact (Session.erase_insert session recordKey _).trans h.others
    | dismissed =>
      obtain rfl : after = session.erase recordKey := hmakes
      refine ⟨?_, Session.get?_erase_self _ _⟩
      have hgone := Session.erase_of_get?_eq_none (Session.get?_erase_self session recordKey)
      exact hgone.trans h.others

section Runs

variable (gate : Gate)

theorem run_append (sessions : Table Session) (calls more : List (String × Call)) :
    gate.run sessions (calls ++ more) =
      ((gate.run sessions calls).1 ++ (gate.run (gate.run sessions calls).2 more).1,
        (gate.run (gate.run sessions calls).2 more).2) := by
  induction calls generalizing sessions with
  | nil => rfl
  | cons first calls ih =>
    simp only [List.cons_append, run, ih]

theorem length_run (sessions : Table Session) (calls : List (String × Call)) :
    (gate.run sessions calls).1.length = calls.length := by
  induction calls generalizing sessions with
  | nil => rfl
  | cons first calls ih => simp [run, ih]

theorem deeds_append (sessions : Table Session) (calls more : List (String × Call))
    (name : String) :
    gate.deeds sessions (calls ++ more) name =
      gate.deeds sessions calls name ++ gate.deeds (gate.run sessions calls).2 more name := by
  rw [deeds, run_append, List.zip_append (gate.length_run sessions calls).symm,
    List.filterMap_append]
  rfl

theorem getLast?_deeds_singleton (sessions : Table Session) (call : String × Call)
    (name : String) :
    (gate.deeds sessions [call] name).getLast? =
      deedOn? name call (gate.step sessions call.1 call.2).1 := by
  change (List.filterMap _ [(call, (gate.step sessions call.1 call.2).1)]).getLast? = _
  rw [List.filterMap_cons, List.filterMap_nil]
  cases deedOn? name call (gate.step sessions call.1 call.2).1 <;> rfl

/-- The session of a name after a run. -/
def sessionAfter (sessions : Table Session) (calls : List (String × Call)) (name : String) :
    Session :=
  (gate.run sessions calls).2.getD name ∅

theorem getD_step_of_ne (sessions : Table Session) {name other : String} (h : other ≠ name)
    (call : Call) : (gate.step sessions name call).2.getD other ∅ = sessions.getD other ∅ := by
  rw [step, Table.getD, Table.get?_insert_of_ne h]
  rfl

theorem getD_step_self (sessions : Table Session) (name : String) (call : Call) :
    (gate.step sessions name call).2.getD name ∅ =
      (gate.answer (sessions.getD name ∅) call).session := by
  rw [step, Table.getD, Table.get?_insert_self]
  rfl

theorem sessionAfter_concat (sessions : Table Session) (calls : List (String × Call))
    (name : String) (call : String × Call) :
    gate.sessionAfter sessions (calls ++ [call]) name =
      (gate.step (gate.run sessions calls).2 call.1 call.2).2.getD name ∅ := by
  rw [sessionAfter, run_append]
  rfl

theorem leaves_run (sessions : Table Session) {calls : List (String × Call)}
    (h : ∀ c ∈ calls, c.2.IsAsked) (name : String) :
    gate.Leaves (sessions.getD name ∅) (gate.deeds sessions calls name).getLast?
      (gate.sessionAfter sessions calls name) := by
  induction calls using List.reverseRecOn with
  | nil => exact leaves_self gate _
  | append_singleton calls call ih =>
    have hleaves := ih fun c hc => h c (List.mem_append_left _ hc)
    rw [deeds_append, List.getLast?_append, getLast?_deeds_singleton, sessionAfter_concat]
    by_cases hname : call.1 = name
    · subst hname
      rw [deedOn?, if_pos rfl, getD_step_self]
      exact hleaves.makes (gate.answer_makes (gate.sessionAfter sessions calls call.1)
        (h call (by simp)))
    · rw [deedOn?, if_neg hname, getD_step_of_ne _ _ (Ne.symm hname), Option.none_or]
      exact hleaves

/-- The gate finds the record that the last login left, and finds none after a logout, which leaves
nothing for another one to do. -/
theorem Leaves.answers {gate : Gate} {before session : Session} {last : Option Deed}
    (h : gate.Leaves before last session) :
    (last = some .admitted → ∃ u p, gate.configured = ⟨.text u, .text p⟩ ∧
      (gate.answer session .record).result = .ok (.value (loginRecord (.text u)))) ∧
    (last = some .dismissed → (gate.answer session .record).result = .ok (.value .null) ∧
      ∀ origin, (gate.answer session (.logout origin)).session = session ∧
        (gate.answer session (.logout origin)).log = []) := by
  constructor
  · rintro rfl
    obtain ⟨u, p, hconf, hrecord⟩ := h.record
    refine ⟨u, p, hconf, ?_⟩
    simp only [answer, Session.record?, hrecord]
    rfl
  · rintro rfl
    have hrecord : session.get? recordKey = none := h.record
    refine ⟨?_, fun origin => ⟨Session.erase_of_get?_eq_none hrecord, ?_⟩⟩
    · simp only [answer, Session.record?, hrecord]
      rfl
    · simp only [answer, logout, hrecord]
      rfl

/-- After any run a session is as it began, apart from the record, which is what the last deed on this
very session left. A call on another session does not matter to it. The gate finds the record after a
login and none after a logout, and then another logout changes no session and is not logged. -/
theorem record_of_run (sessions : Table Session) {calls : List (String × Call)}
    (h : ∀ c ∈ calls, c.2.IsAsked) (name : String) :
    let after := (gate.run sessions calls).2
    let last := (gate.deeds sessions calls name).getLast?
    gate.Leaves (sessions.getD name ∅) last (after.getD name ∅) ∧
    (∀ other, name ≠ other → ∀ call,
      (gate.step after other call).2.getD name ∅ = after.getD name ∅) ∧
    (last = some .admitted → ∃ u p, gate.configured = ⟨.text u, .text p⟩ ∧
      (gate.step after name .record).1.result = .ok (.value (loginRecord (.text u)))) ∧
    (last = some .dismissed → (gate.step after name .record).1.result = .ok (.value .null) ∧
      ∀ origin, (gate.step after name (.logout origin)).1.log = [] ∧
        ∀ any, (gate.step after name (.logout origin)).2.getD any ∅ = after.getD any ∅) := by
  have hleaves := gate.leaves_run sessions h name
  obtain ⟨hadmitted, hdismissed⟩ := hleaves.answers
  refine ⟨hleaves, fun other hne call => gate.getD_step_of_ne _ hne call, hadmitted,
    fun hlast => ?_⟩
  obtain ⟨hnone, hagain⟩ := hdismissed hlast
  refine ⟨hnone, fun origin => ⟨(hagain origin).2, fun any => ?_⟩⟩
  by_cases hany : any = name
  · subst hany
    rw [getD_step_self]
    exact (hagain origin).1
  · exact gate.getD_step_of_ne _ hany _

/-- One visitor comes with a record of another shape and a setting, and logs in; another one logs out.
A wrong pair after that does nothing. -/
theorem record_of_forgedRun :
    let gate : Gate := ⟨⟨.text "admin", .text "correct"⟩, .text "/", .text "/login"⟩
    let theme : Value × Value := (.text "theme", .text "dark")
    let sessions : Table Session :=
      ⟨[("main", ⟨[(.text recordKey, .text "forged"), theme]⟩),
        ("other", ⟨[theme, (.text recordKey, loginRecord (.text "admin"))]⟩)]⟩
    let form : Datum := .ofFields
      [("session", .ofFields [("username", .text "admin"), ("password", .text "correct")])]
    let calls : List (String × Call) :=
      [("main", .login form .null .null), ("other", .logout .null), ("main", .vouch ⟨.null, .null⟩),
        ("other", .vouch ⟨.text "admin", .text "wrong"⟩)]
    let after := (gate.run sessions calls).2
    (gate.step after "main" .record).1.result = .ok (.value (loginRecord (.text "admin"))) ∧
      (after.getD "main" ∅).erase recordKey = ⟨[theme]⟩ ∧
      (gate.step after "other" .record).1.result = .ok (.value .null) ∧
      (gate.step after "other" (.logout .null)).1.log = [] := by
  intro gate theme sessions form calls after
  have hasked : ∀ c ∈ calls, c.2.IsAsked := by
    simp [calls, Call.IsAsked]
  obtain ⟨hmain, _, hadmitted, _⟩ := gate.record_of_run sessions hasked "main"
  obtain ⟨_, _, _, hdismissed⟩ := gate.record_of_run sessions hasked "other"
  obtain ⟨hnone, hlog⟩ := hdismissed (by decide)
  obtain ⟨u, p, hconf, hrecord⟩ := hadmitted (by decide)
  obtain rfl := Datum.text.inj (Credential.mk.inj hconf).1
  exact ⟨hrecord, hmain.others.trans (by rfl), hnone, (hlog .null).1⟩

end Runs

end Gate

end Gatehouse
