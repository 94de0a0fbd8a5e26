import Gatehouse.Fault
import Gatehouse.Value.Key

namespace Gatehouse.Value

/-- Whether a count is greater than a limit, which has to be a number. No count is greater than an
undefined number. -/
def isExceededBy (limit : Value) (count : Nat) : Except Fault Bool :=
  match limit with
  | .float .undefined => .ok false
  | limit =>
    match limit.magnitude?, (Value.int count).magnitude? with
    | some most, some size => .ok (most.less size)
    | _, _ => .error (.notOrdered '>' .int limit.kind)

/-- A limit that is null is none. -/
def limits (limit : Value) (count : Nat) : Except Fault Bool :=
  match limit with
  | .null => .ok false
  | limit => limit.isExceededBy count

end Gatehouse.Value
