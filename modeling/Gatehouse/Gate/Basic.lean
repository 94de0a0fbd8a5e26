import Gatehouse.Gate.Outcome
import Gatehouse.Log
import Gatehouse.Session
import Gatehouse.Target

namespace Gatehouse

/-- The name under which a session holds the record of a login. -/
def recordKey : String := "dashboard_auth"

/-- The record of a login. -/
def loginRecord (username : Value) : Value :=
  .ofFields [("authenticated", .bool true), ("username", username)]

/-- The record that a session holds, if it marks a visitor who is logged in: its mark is true itself
and not something that counts as true, and its username is a text. -/
def Session.record? (session : Session) : Option Value :=
  match session.get? recordKey with
  | some (.map entries) =>
    match Value.lookupText "authenticated" entries, Value.lookupText "username" entries with
    | some (.bool true), some (.text _) => some (.map entries)
    | _, _ => none
  | _ => none

/-- The session of a visitor who has just logged in. -/
def Session.withRecord (session : Session) (username : Value) : Session :=
  session.insert recordKey (loginRecord username)

/-- The username in the record. -/
def Session.username? (session : Session) : Option String :=
  (session.record?.bind (Value.field? "username")).bind Value.text?

structure Gate where
  configured : Credential
  /-- Where a login leads when no usable target was asked for. -/
  landing : Value
  /-- Where a logout leads. -/
  exit : Value

/-- What an operation gives back: its result, the session as it is afterwards, whether the session
was written to, even if only with what it held before, and what was logged. -/
structure Reply (α : Type) where
  result : Except Fault α
  session : Session
  written : Bool
  log : List Event

namespace Reply

variable {α β : Type}

/-- An operation that leaves the session alone and logs nothing. -/
def same (result : Except Fault α) (session : Session) : Reply α := ⟨result, session, false, []⟩

def map (f : α → β) (r : Reply α) : Reply β := ⟨r.result.map f, r.session, r.written, r.log⟩

/-- One operation after another. A fault ends the whole, but what happened before it stays. -/
def andThen (r : Reply α) (next : α → Session → Reply β) : Reply β :=
  match r.result with
  | .error fault => ⟨.error fault, r.session, r.written, r.log⟩
  | .ok a =>
    let s := next a r.session
    ⟨s.result, s.session, r.written || s.written, r.log ++ s.log⟩

end Reply

namespace Gate

/-- A failed login, and one that cannot be checked, leaves the session as it is. -/
def login (gate : Gate) (session : Session) (payload : Datum) (target origin : Value) :
    Reply Outcome :=
  match Submission.ofPayload payload target with
  | .error flaw =>
    let view := FormView.make .null .null (.text Refusal.malformedPayload.notice)
    ⟨.ok (.refused .malformedPayload view), session, false, [.malformed origin flaw]⟩
  | .ok submission =>
    match gate.configured.compareWith submission.credential with
    | .error fault => .same (.error fault) session
    | .ok ⟨username, password, false⟩ =>
      let view := FormView.returned username password submission.target
        Refusal.wrongCredentials.notice
      ⟨.ok (.refused .wrongCredentials view), session, false, [.rejected origin]⟩
    | .ok ⟨username, _, true⟩ =>
      ⟨.ok (.admitted (Target.resolve submission.target gate.landing)),
        session.withRecord (.text username), true, [.login origin]⟩

/-- The record goes, whatever it is; a null in its place is not worth logging. -/
def logout (gate : Gate) (session : Session) (origin : Value) : Reply Outcome :=
  let log := match session.get? recordKey with
    | none | some .null => []
    | some _ => [.logout origin]
  ⟨.ok (.dismissed gate.exit), session.erase recordKey, true, log⟩

/-- Checks a pair that did not come through the login form. -/
def vouch (gate : Gate) (session : Session) (pair : Credential) : Reply Bool :=
  match gate.configured.admitted? pair with
  | .error fault => .same (.error fault) session
  | .ok none => .same (.ok false) session
  | .ok (some username) => ⟨.ok true, session.withRecord (.text username), true, []⟩

end Gate

end Gatehouse
