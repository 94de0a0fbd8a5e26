import Gatehouse.Gate.Basic
import Gatehouse.Table

namespace Gatehouse

/-- What can be done with a session: ask the gate, or write into the session directly. -/
inductive Call where
  | showForm (target : Value)
  | login (payload : Datum) (target origin : Value)
  | logout (origin : Value)
  | record
  | vouch (pair : Credential)
  | put (key value : Value)
  | remove (key : Value)

inductive Answer where
  | outcome (o : Outcome)
  | value (v : Value)

namespace Gate

/-- A direct write to a session under a key that can be looked up. -/
def write (session after : Session) (key : Value) : Reply Answer :=
  match key.unhashable? with
  | some kind => .same (.error (.unhashable kind)) session
  | none => ⟨.ok (.value .null), after, true, []⟩

def answer (gate : Gate) (session : Session) : Call → Reply Answer
  | .showForm target => .same (.ok (.outcome (.shown (.fresh target)))) session
  | .login payload target origin => (gate.login session payload target origin).map .outcome
  | .logout origin => (gate.logout session origin).map .outcome
  | .record => .same (.ok (.value (session.record?.getD .null))) session
  | .vouch pair => (gate.vouch session pair).map fun b => .value (.bool b)
  | .put key value => write session (session.put key value) key
  | .remove key => write session (session.remove key) key

/-- One call on the session of a name. A session not there yet is empty. -/
def step (gate : Gate) (sessions : Table Session) (name : String) (call : Call) :
    Reply Answer × Table Session :=
  let reply := gate.answer (sessions.getD name ∅) call
  (reply, sessions.insert name reply.session)

/-- The replies to a list of calls in order, and the sessions at the end. -/
def run (gate : Gate) : Table Session → List (String × Call) → List (Reply Answer) × Table Session
  | sessions, [] => ([], sessions)
  | sessions, (name, call) :: rest =>
    let (reply, sessions) := gate.step sessions name call
    let (replies, sessions) := gate.run sessions rest
    (reply :: replies, sessions)

end Gate

end Gatehouse
