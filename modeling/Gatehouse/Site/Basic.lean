import Gatehouse.Settings

namespace Gatehouse

structure Site where
  gate : Gate
  settings : Settings

/-- The site that settings describe, if they describe a gate. -/
def Settings.site (s : Settings) : Except Fault Site := s.gate.map fun gate => ⟨gate, s⟩

namespace Site

/-- Whether there is a key to sign sessions with. Without one, no session is kept at all. -/
def signed (site : Site) : Bool := site.settings.secretKey.truthy

/-- Whether a request that fails raises its fault; else it is answered and logged. -/
def raises (site : Site) : Bool :=
  match site.settings.raising with
  | .null => site.settings.testing.truthy || site.settings.debugging.truthy
  | v => v.truthy

/-- Whether a request that is turned away fails. -/
def traps (site : Site) (denial : Denial) : Bool :=
  site.settings.trapping.truthy ||
    (site.settings.trappingBadRequests.truthy && denial.isBadRequest)

/-- The cookie that carries the session; without a path of its own it is for the root of the
site. -/
def sessionCookie (site : Site) : CookieRule :=
  let rule := site.settings.sessionCookie
  if rule.path.truthy then rule else { rule with path := site.settings.root }

/-- An operation on a session as the site allows it: without a key no session may be written to. -/
def permit {α : Type} (site : Site) (session : Session) (r : Reply α) : Reply α :=
  if r.written && !site.signed then .same (.error .noSecret) session else r

end Site

namespace Session

/-- The notices that wait for the next page. -/
def noticesKey : String := "_flashes"

/-- An order to remember the visitor, or to forget about it. -/
def orderKey : String := "_remember"

def orderToSet : String := "set"

def orderToClear : String := "clear"

/-- For how long the visitor is to be remembered. -/
def lifetimeKey : String := "_remember_seconds"

/-- The visitor who is remembered. -/
def userKey : String := "_user_id"

/-- Whether the visitor has logged in since the session was last in doubt. -/
def freshKey : String := "_fresh"

/-- The mark of the browser that the session was made for. The site sets no such mark, but a session
may come with one. -/
def browserKey : String := "_id"

def nextKey : String := "next"

/-- Whether the session outlives the browser. -/
def permanentKey : String := "_permanent"

def isPermanent (s : Session) : Bool := ((s.get? permanentKey).getD .null).truthy

end Session

end Gatehouse
