import Gatehouse.Fault
import Gatehouse.Value.Key

namespace Gatehouse.Style

/-- The key as a class of its own if it is a text, else the fallback. -/
def ownClass (key fallback : Value) : Value :=
  match key with
  | .text s => .text s
  | _ => fallback

/-- The class mapped to a key. Lists and maps are no keys and are not looked up; a tuple is looked
up and fails if a list or map is inside it. -/
def lookup (classes : Option (List (Value × Value))) (key fallback : Value) : Except Fault Value :=
  if !key.isKeyKind then .ok fallback
  else match classes with
    | none => .error .noClasses
    | some entries =>
      match key.unhashable? with
      | some kind => .error (.unhashable kind)
      | none => .ok ((Value.lookupKey key entries).getD (ownClass key fallback))

/-- The classes of alert boxes. -/
def alerts : List (String × String) :=
  [("danger", "alert alert-danger"), ("info", "alert alert-info"),
   ("success", "alert alert-success")]

def alertEntries : List (Value × Value) := alerts.map fun (k, v) => (.text k, .text v)

/-- An alert box for any category. -/
def alert (category : Value) : Except Fault Value :=
  lookup (some alertEntries) category (.text "alert")

end Gatehouse.Style
