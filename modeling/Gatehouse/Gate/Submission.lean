import Gatehouse.Credential

namespace Gatehouse

/-- The name under which a payload holds the fields of the form, and the name of the form. -/
def formKey : String := "session"

structure Submission where
  username : Datum
  password : Datum
  /-- Where the visitor wants to go. -/
  target : Value
  deriving Repr

namespace Submission

/-- A payload is a map that holds a map of fields, two of which are texts. Other fields do not
matter. -/
def ofPayload (payload : Datum) (target : Value) : Except Flaw Submission :=
  match payload with
  | .map entries =>
    match Datum.lookupText formKey entries with
    | some (.map fields) =>
      match Datum.lookupText "username" fields, Datum.lookupText "password" fields with
      | some username, some password =>
        if username.isText && password.isText then .ok { username, password, target }
        else .error .notTexts
      | _, _ => .error .notTexts
    | _ => .error .noSession
  | _ => .error .notMap

def credential (s : Submission) : Credential := ⟨s.username, s.password⟩

end Submission

end Gatehouse
