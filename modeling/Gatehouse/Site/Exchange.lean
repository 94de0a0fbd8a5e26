import Gatehouse.Site.Answer

namespace Gatehouse.Site

/-- What comes of a request: its result, the browser as it is afterwards, and what was logged. -/
structure Exchange (α : Type) where
  result : Except Fault α
  browser : Browser
  log : List Event

/-- Sends a response. One that cannot be sent, or not be received, changes nothing, whether faults
are raised or not. -/
def send (response : Response) (orders : List Cookie.Order) (browser : Browser)
    (log : List Event) : Exchange Response :=
  match response.sealed, browser.receive orders with
  | .error flaw, _ => ⟨.error (.badLocation flaw), browser, log⟩
  | .ok _, .error fault => ⟨.error fault, browser, log⟩
  | .ok response, .ok received => ⟨.ok response, received, log⟩

/-- What was logged, and that a request failed. -/
def failureLog (request : Request) (log : List Event) : List Event :=
  log ++ [.failed request.method.name (String.ofList request.normalPath)]

/-- What comes of a request after a fault. If faults are raised, the browser stays as it was; else
the session is settled as after any response, unless that fails too. -/
def afterFault (site : Site) (request : Request) (browser : Browser) (fault : Fault)
    (session : Session) (written : Bool) (log : List Event) : Exchange Response :=
  if site.raises then ⟨.error fault, browser, log⟩
  else
    let log := failureLog request log
    match site.settle request.address session written with
    | .ok orders => send .failed orders browser log
    | .error _ => ⟨.ok .failed, browser, log ++ [.unfinished]⟩

/-- What comes of an answer. An order that could not be carried out is not tried again. -/
def conclude (site : Site) (request : Request) (browser : Browser) (reply : Reply Response) :
    Exchange Response :=
  match reply.result with
  | .error fault =>
    site.afterFault request browser fault reply.session reply.written reply.log
  | .ok response =>
    match site.settle request.address reply.session reply.written with
    | .ok orders => send response orders browser reply.log
    | .error fault =>
      site.afterFault request browser fault (reply.session.erase Session.orderKey)
        (reply.written || reply.session.has Session.orderKey) reply.log

/-- What comes of a request whose session cannot be opened. -/
def unopened (site : Site) (request : Request) (browser : Browser) (fault : Fault) :
    Exchange Response :=
  if site.raises then ⟨.error fault, browser, []⟩
  else ⟨.ok .failed, browser, failureLog request [] ++ [.unfinished]⟩

/-- The answer to a request. -/
def respond (site : Site) (request : Request) (browser : Browser) : Exchange Response :=
  let cookies := browser.shownAt request.address
  match site.standing request.address, site.opened cookies with
  | .error fault, _ => ⟨.error fault, browser, []⟩
  | .ok _, .error fault => site.unopened request browser fault
  | .ok standing, .ok session =>
    site.conclude request browser (site.answer standing ⟨request, cookies⟩ session)

end Gatehouse.Site
