import Gatehouse.Site.Lifetime

namespace Gatehouse

structure Browser where
  cookies : List Cookie

namespace Browser

/-- A browser that was never here. -/
def new : Browser := ⟨[]⟩

instance : Inhabited Browser := ⟨new⟩

/-- The cookies that are shown at an address. -/
def shownAt (b : Browser) (address : Address) : List Cookie :=
  b.cookies.filter fun c => c.isShownAt address

def receiveAll : List Cookie → List Cookie.Order → Except Fault (List Cookie)
  | cookies, [] => .ok cookies
  | cookies, order :: rest =>
    match order.carryOut cookies with
    | .ok cookies => receiveAll cookies rest
    | .error fault => .error fault

/-- The browser after the orders of a response. -/
def receive (b : Browser) (orders : List Cookie.Order) : Except Fault Browser :=
  (receiveAll b.cookies orders).map Browser.mk

/-- The key of the cookie with the session on a site where nothing else is set. -/
def usualKey : CookieKey := ⟨Address.ownHost, "/", "session"⟩

/-- The session in the usual cookie; an empty one if there is none. -/
def session (b : Browser) : Session :=
  match (Cookie.get? usualKey b.cookies).map Cookie.carried with
  | some (.session s) => s
  | _ => ∅

/-- The browser with a text that nobody signed in the usual cookie. -/
def forged (b : Browser) (text : String) : Browser :=
  ⟨Cookie.put ⟨usualKey, false, .text text⟩ b.cookies⟩

end Browser

/-- A name of a cookie is looked up, which not every value can be. -/
def checkKey (key : Value) : Except Fault Unit :=
  match key.unhashable? with
  | some kind => .error (.unhashable kind)
  | none => .ok ()

namespace Site

/-- The earlier keys have to be a series, or count as false. -/
def checkEarlierKeys (site : Site) : Except Fault Unit :=
  let keys := site.settings.earlierKeys
  if keys.truthy && keys.members?.isNone then .error (.notSeries keys.kind) else .ok ()

/-- What is read from the cookie with the session. An empty text is not looked at. -/
def read (site : Site) : Carried → Except Fault Session
  | .text "" => .ok ∅
  | .session session => site.keepsSessions.map fun kept => if kept then session else ∅
  | _ => site.keepsSessions.map fun _ => ∅

/-- The session that a browser comes with. -/
def opened (site : Site) (cookies : List Cookie) : Except Fault Session :=
  if !site.signed then .ok ∅
  else do
    site.checkEarlierKeys
    checkKey site.settings.sessionCookie.name
    match Cookie.carried? site.settings.sessionCookie.name cookies with
    | some carried => site.read carried
    | none => return ∅

end Site

end Gatehouse
