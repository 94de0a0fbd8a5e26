import Gatehouse.Http.Page
import Gatehouse.Site.Basic
import Gatehouse.Style

namespace Gatehouse

/-- A notice is made of a category and a message; whatever has two members will do. The class of a
notice is looked up by its category. -/
def Notice.ofValue (v : Value) : Except Fault Notice :=
  match v.members? with
  | none => .error (.notNotice v.kind)
  | some [category, message] =>
    (Style.alert category).map fun style => ⟨style.toText, message.toText⟩
  | some members =>
    .error (if members.length < 2 then .tooFewMembers members.length else .tooManyMembers)

/-- The notices in order; the first that is none counts. -/
def Notice.ofValues : List Value → Except Fault (List Notice)
  | [] => .ok []
  | v :: rest => do
    let notice ← Notice.ofValue v
    let more ← Notice.ofValues rest
    return notice :: more

namespace Session

/-- A session with one more notice; there has to be a list of notices or none. -/
def addNotice (s : Session) (category message : String) : Except Fault Session :=
  let notice : Value := .list [.text category, .text message]
  match s.get? noticesKey with
  | none => .ok (s.insert noticesKey (.list [notice]))
  | some (.list items) => .ok (s.insert noticesKey (.list (items ++ [notice])))
  | some v => .error (.notGrowing v.kind)

/-- Takes all notices out of the session. -/
def takeNotices (s : Session) : Reply (List Notice) :=
  match s.get? noticesKey with
  | none => .same (.ok []) s
  | some waiting =>
    let notices := match waiting.members? with
      | some items => Notice.ofValues items
      | none => .error (.notSeries waiting.kind)
    ⟨notices, s.erase noticesKey, true, []⟩

end Session

end Gatehouse
