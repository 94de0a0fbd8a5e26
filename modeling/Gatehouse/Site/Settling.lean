import Gatehouse.Site.Browser
import Gatehouse.Value.Stored

namespace Gatehouse.Site

/-- The key that sessions are signed with has to be a text or octets. -/
def checkSecret (site : Site) : Except Fault Unit :=
  match site.settings.secretKey with
  | .text _ => .ok ()
  | .bytes _ => .ok ()
  | v => .error (.badSecret v.kind)

def isWide (c : Char) : Bool := 0x100 ≤ c.toNat

/-- Tokens are signed with the octets of the key, whose characters have to be among the first
256. -/
def checkNarrow (key : List Char) : Except Fault Unit :=
  match key.dropWhile (!isWide ·) with
  | [] => .ok ()
  | c :: rest =>
    let first := key.length - rest.length - 1
    .error (.wideSecret c first (first + (rest.takeWhile isWide).length))

def checkTokenSecret (site : Site) : Except Fault Unit :=
  match site.settings.secretKey with
  | .text s => checkNarrow s.toList
  | .bytes _ => .ok ()
  | v => .error (.badSecret v.kind)

/-- The order to keep a session. -/
def store (site : Site) (address : Address) (session : Session) : Except Fault Cookie.Order := do
  site.checkEnd session
  let kept ← session.toValue.stored
  site.checkSecret
  site.sessionCookie.issue site.settings.cookieLimit address (some (.session (.ofValue kept)))

/-- What becomes of a session. It is stored if it was written to, or if it is permanent; an empty
one is dropped. -/
def save (site : Site) (address : Address) (session : Session) (written : Bool) :
    Except Fault (List Cookie.Order) :=
  let due := written || (session.isPermanent && site.settings.sessionRefresh.truthy)
  if !(due && site.signed) then .ok []
  else if session.isEmpty then
    (site.sessionCookie.issue site.settings.cookieLimit address none).map fun order => [order]
  else (site.store address session).map fun order => [order]

/-- The order in a session. -/
def order? (site : Site) (session : Session) : Option Value :=
  match session.get? Session.orderKey with
  | some order => some order
  | none => if site.settings.tokenRefresh.truthy then some (.text Session.orderToSet) else none

/-- A time that the session names for remembering the visitor has to be a time span. -/
def checkTime (time : Option Value) : Except Fault Unit :=
  match time.map Lifetime.days with
  | some (.error flaw) => .error (.badLifetime flaw)
  | _ => .ok ()

/-- The time from now on for which the visitor is remembered. -/
def checkTimeAhead (site : Site) : Option Value → Except Fault Unit
  | some time => (Lifetime.check time).mapError .badLifetime
  | none => site.checkTokenLifetime

/-- The order to keep a token for the visitor. -/
def newToken (site : Site) (address : Address) (session : Session) (visitor : Value) :
    Except Fault Cookie.Order := do
  let time := session.get? Session.lifetimeKey
  checkTime time
  site.checkTokenSecret
  site.checkTimeAhead time
  site.settings.tokenCookie.issue site.settings.cookieLimit address (some (.token visitor.toText))

/-- The order to drop the token. It names where the token is shown, and nothing else of its rule. -/
def oldToken (site : Site) (address : Address) : Except Fault Cookie.Order :=
  let rule : CookieRule :=
    { site.settings.tokenCookie with sameSite := .null, httpOnly := .null, secure := .null }
  rule.issue site.settings.cookieLimit address none

/-- What an order in the session comes to. Unknown orders, and an order to remember nobody, come to
nothing. -/
def remember (site : Site) (address : Address) (session : Session) :
    Value → Except Fault (List Cookie.Order)
  | .text order =>
    if order = Session.orderToClear then (site.oldToken address).map fun order => [order]
    else if order = Session.orderToSet then
      match session.get? Session.userKey with
      | some visitor => (site.newToken address session visitor).map fun order => [order]
      | none => .ok []
    else .ok []
  | _ => .ok []

/-- What a response has the browser do that left a session. An order is gone from the session once
it is looked at. -/
def settle (site : Site) (address : Address) (session : Session) (written : Bool) :
    Except Fault (List Cookie.Order) :=
  match site.order? session with
  | none => site.save address session written
  | some order =>
    if site.signed then do
      let first ← site.remember address session order
      let rest ← site.save address (session.erase Session.orderKey) true
      return first ++ rest
    else .error .noSecret

end Gatehouse.Site
