import Gatehouse.Site.Run

namespace Gatehouse

/-- What is kept as long as a request is worked on: who the visitor is, once it has been found out. -/
structure Scope where
  visitor? : Option (Option String)

/-- A site at work. All requests share it, whoever sends them. -/
structure Server where
  site : Site
  /-- The scopes that are open, the innermost first. -/
  scopes : List Scope

/-- The server that settings start, if they describe a gate. -/
def Settings.server (s : Settings) : Except Fault Server := s.site.map fun site => ⟨site, []⟩

/-- What a server does with a session. It may change what the server keeps. -/
def Work (α : Type) := Session → Server → Reply α × Server

namespace Work

variable {α β : Type}

/-- Work that changes nothing that the server keeps. -/
def plain (f : Site → Session → Reply α) : Work α := fun session server =>
  (f server.site session, server)

/-- One piece of work after another; a fault ends the whole. -/
def andThen (work : Work α) (next : α → Work β) : Work β := fun session server =>
  let (reply, server) := work session server
  match reply.result with
  | .error fault => (⟨.error fault, reply.session, reply.written, reply.log⟩, server)
  | .ok a =>
    let (more, server) := next a reply.session server
    (⟨more.result, more.session, reply.written || more.written, reply.log ++ more.log⟩, server)

end Work

namespace Server

/-- A request opens a scope, unless it finds one open: then it works in that one. -/
def enter (server : Server) : Server :=
  match server.scopes with
  | [] => { server with scopes := [⟨none⟩] }
  | _ => server

/-- A request closes the scope that it has opened. -/
def leave (before after : Server) : Server :=
  match before.scopes with
  | [] => { after with scopes := after.scopes.tail }
  | _ => after

/-- Who the visitor is. This is found out once in a scope, unless there is a fault. -/
def visitor (visit : Visit) : Work (Option String) := fun session server =>
  match server.scopes with
  | ⟨some who⟩ :: _ => (.same (.ok who) session, server)
  | scopes =>
    let reply := server.site.visitor visit session
    match reply.result with
    | .ok who => (reply, { server with scopes := ⟨some who⟩ :: scopes.tail })
    | .error _ => (reply, server)

/-- Every page asks who the visitor is. -/
def showPage (visit : Visit) (status : Nat) (content : Content) : Work Response :=
  (visitor visit).andThen fun _ => .plain fun _ session =>
    Site.showPage visit.request session status content

def showLoginPage (visit : Visit) (status : Nat) (view : FormView) : Work Response :=
  showPage visit status (Site.loginContent view)

def dashboard (visit : Visit) : Work Response :=
  (visitor visit).andThen fun who =>
    match who with
    | some username => showPage visit 200 (.dashboard username)
    | none => .plain fun site session =>
      if site.settings.unguarded.truthy then .same (.error .noUsername) session
      else .same (Site.loginDetour visit.request) session

def loginForm (visit : Visit) : Work Response :=
  showLoginPage visit 200 (.fresh (Value.ofText? visit.request.queryTarget?))

def afterLogin (visit : Visit) (outcome : Outcome) : Work Response :=
  match outcome.location, outcome.view? with
  | .null, none => .plain fun _ session => .same (.error .noForm) session
  | .null, some view => showLoginPage visit outcome.status view
  | location, _ => .plain fun _ session => .same (Site.redirectTo location) session

/-- The gate is asked about a payload. -/
def logIn (request : Request) (payload : Datum) : Work Outcome :=
  .plain fun site session => site.permit session
    (site.gate.login session payload (Value.ofText? request.target?) request.origin)

def submitLogin (visit : Visit) : Work Response := fun session server =>
  let request := visit.request
  match server.site.tooLong request, request.payload with
  | .error fault, _ => (.same (.error fault) session, server)
  | .ok true, _ => (.same (server.site.deny request .tooLarge) session, server)
  | .ok false, .error fault => (.same (.error fault) session, server)
  | .ok false, .ok payload =>
    ((logIn request payload).andThen (afterLogin visit)) session server

/-- The answer of a server that calls itself by `name`. -/
def answerAs (name : String) (visit : Visit) : Work Response := fun session server =>
  let request := visit.request
  let denied (denial : Denial) := Reply.same (server.site.deny request denial) session
  match Route.of (server.site.asked request) request.path with
  | .notFound => (denied .notFound, server)
  | .notAllowed => (denied .notAllowed, server)
  | .wrongProtocol => (denied .wrongProtocol, server)
  | .moved path => (denied (Site.movedTo request name path), server)
  | .methods => (.same (.ok .methods) session, server)
  | .endpoint .dashboard => dashboard visit session server
  | .endpoint .loginForm => loginForm visit session server
  | .endpoint .submitLogin => submitLogin visit session server
  | .endpoint .logout => (server.site.logout request session, server)

def answer (standing : Except Denial String) (visit : Visit) : Work Response :=
  match standing with
  | .ok name => answerAs name visit
  | .error denial => .plain fun site session => .same (site.deny visit.request denial) session

/-- The answer to a request, and the server after it. The scope of a request is left on every way out
of it, faults included. -/
def respond (server : Server) (request : Request) (browser : Browser) :
    Site.Exchange Response × Server :=
  match server.site.standing request.address with
  | .error fault => (⟨.error fault, browser, []⟩, server)
  | .ok standing =>
    let cookies := browser.shownAt request.address
    let inside := server.enter
    match inside.site.opened cookies with
    | .error fault => (inside.site.unopened request browser fault, server.leave inside)
    | .ok session =>
      let (reply, after) := answer standing ⟨request, cookies⟩ session inside
      (after.site.conclude request browser reply, server.leave after)

/-- A message is answered; all else that can be done is done to the browser alone. -/
def act (server : Server) (browser : Browser) :
    Site.Action → Site.Exchange (Option Response) × Server
  | .send address message =>
    match message.sentTo server.site.settings.base address with
    | .ok request =>
      let (exchange, server) := server.respond request browser
      (⟨exchange.result.map some, exchange.browser, exchange.log⟩, server)
    | .error fault => (⟨.error fault, browser, []⟩, server)
  | action => (server.site.act browser action, server)

/-- What comes of the actions of several clients in order. All of them change the same server. -/
def run : Server → Table Browser → List (String × Site.Action) →
    List (Site.Exchange (Option Response))
  | _, _, [] => []
  | server, browsers, (client, action) :: rest =>
    let (exchange, server) := server.act (browsers.getD client .new) action
    exchange :: server.run (browsers.insert client exchange.browser) rest

end Server

end Gatehouse
