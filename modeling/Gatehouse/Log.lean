import Gatehouse.Fault
import Gatehouse.Value.Printer

namespace Gatehouse

inductive Level where
  | debug | info | warning | error
  deriving DecidableEq, Repr

def Level.name : Level → String
  | .debug => "DEBUG"
  | .info => "INFO"
  | .warning => "WARNING"
  | .error => "ERROR"

/-- What happened. The origin is the address that the request came from. -/
inductive Event where
  | ready (landing : Value)
  | malformed (origin : Value) (flaw : Flaw)
  | rejected (origin : Value)
  | login (origin : Value)
  | logout (origin : Value)
  /-- A request failed by a fault of the site. -/
  | failed (method path : String)
  /-- What was to be done after such a request failed as well. -/
  | unfinished
  deriving Repr

namespace Event

def level : Event → Level
  | .ready _ => .debug
  | .malformed _ _ => .warning
  | .rejected _ => .warning
  | .login _ => .info
  | .logout _ => .info
  | .failed _ _ => .error
  | .unfinished => .error

def message : Event → String
  | .ready landing => "Dashboard gate ready, landing at " ++ landing.toText
  | .malformed origin flaw =>
    "Rejected malformed login payload from " ++ origin.toText ++ ": " ++ flaw.message
  | .rejected origin => "Invalid dashboard credentials from " ++ origin.toText
  | .login origin => "Dashboard login from " ++ origin.toText
  | .logout origin => "Dashboard logout from " ++ origin.toText
  | .failed method path => "Exception on " ++ path ++ " [" ++ method ++ "]"
  | .unfinished => "Request finalizing failed with an error while handling an error"

end Event

end Gatehouse
