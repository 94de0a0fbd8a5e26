import Gatehouse.Gate.Submission

namespace Gatehouse

/-- What a login form is shown with: the fields as they were filled in, the target to be remembered
and a message; any of them may be absent. -/
structure FormView where
  fields : Value
  target : Value
  notice : Value
  deriving Repr

namespace FormView

def filled (username password : Value) : Value :=
  .ofFields [("username", username), ("password", password)]

def blank : Value := filled (.text "") (.text "")

/-- A view with blank fields where none are given. -/
def make (fields target notice : Value) : FormView :=
  match fields with
  | .null => ⟨blank, target, notice⟩
  | fields => ⟨fields, target, notice⟩

/-- The view of a login form that nobody has filled in yet. -/
def fresh (target : Value) : FormView := make .null target .null

/-- The view of a form that comes back after a failed login. -/
def returned (username password : String) (target : Value) (notice : String) : FormView :=
  make (filled (.text username) (.text password)) target (.text notice)

end FormView

/-- Why a login failed. -/
inductive Refusal where
  | malformedPayload
  | wrongCredentials
  deriving DecidableEq, Repr

namespace Refusal

def name : Refusal → String
  | .malformedPayload => "malformed_payload"
  | .wrongCredentials => "invalid_credentials"

def notice : Refusal → String
  | .malformedPayload => "Invalid login payload"
  | .wrongCredentials => "Invalid credentials"

def status : Refusal → Nat
  | .malformedPayload => 400
  | .wrongCredentials => 401

end Refusal

inductive Outcome where
  | shown (view : FormView)
  | refused (why : Refusal) (view : FormView)
  | admitted (location : Value)
  | dismissed (location : Value)
  deriving Repr

/-- The state that an outcome leaves the visitor in. -/
inductive Phase where
  | loggedOut | formShown | failed | loggedIn
  deriving DecidableEq, Repr

def Phase.name : Phase → String
  | .loggedOut => "logged_out"
  | .formShown => "login_form_shown"
  | .failed => "login_failed"
  | .loggedIn => "logged_in"

namespace Outcome

def phase : Outcome → Phase
  | .shown _ => .formShown
  | .refused _ _ => .failed
  | .admitted _ => .loggedIn
  | .dismissed _ => .loggedOut

def status : Outcome → Nat
  | .shown _ => 200
  | .refused why _ => why.status
  | .admitted _ => 302
  | .dismissed _ => 302

def view? : Outcome → Option FormView
  | .shown view => some view
  | .refused _ view => some view
  | _ => none

/-- The location to go to; null where there is none. -/
def location : Outcome → Value
  | .admitted location => location
  | .dismissed location => location
  | _ => .null

def refusal? : Outcome → Option Refusal
  | .refused why _ => some why
  | _ => none

end Outcome

end Gatehouse
