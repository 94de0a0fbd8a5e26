import Gatehouse.Http.Response
import Gatehouse.Site.Notices
import Gatehouse.Site.Standing
import Gatehouse.Site.Visitor

namespace Gatehouse.Site

/-- A page with the notices that wait. -/
def showPage (request : Request) (session : Session) (status : Nat) (content : Content) :
    Reply Response :=
  session.takeNotices.map fun notices =>
    .page status ⟨request.address.root, notices, content⟩ !request.wantsHead

/-- A text for a value that counts as true. -/
def shownText (v : Value) : Option String := if v.truthy then some v.toText else none

/-- The login form of a view. The password that was filled in is not shown. -/
def loginContent (view : FormView) : Content :=
  .login (shownText view.notice) (shownText view.target)
    (((view.fields.field? "username").map Value.toText).getD "")

/-- The login page. Every page asks who the visitor is, so that a valid pair in the authorization
header leaves its record here too. -/
def showLoginPage (site : Site) (visit : Visit) (session : Session) (status : Nat)
    (view : FormView) : Reply Response :=
  (site.visitor visit session).andThen fun _ session =>
    showPage visit.request session status (loginContent view)

def redirectTo (location : Value) : Except Fault Response :=
  (Response.redirect location.toText).checked

/-- Where visitors are sent who have to log in first: to the login page under the root of the site,
with the place they asked for. -/
def loginDetour (request : Request) : Except Fault Response :=
  let login := request.address.root ++ Endpoint.loginForm.path
  redirectTo (.text (String.ofList (Location.withField login Request.targetName request.place)))

def dashboard (site : Site) (visit : Visit) (session : Session) : Reply Response :=
  (site.visitor visit session).andThen fun who session =>
    match who with
    | some username => showPage visit.request session 200 (.dashboard username)
    | none =>
      if site.settings.unguarded.truthy then .same (.error .noUsername) session
      else .same (loginDetour visit.request) session

def loginForm (site : Site) (visit : Visit) (session : Session) : Reply Response :=
  site.showLoginPage visit session 200 (.fresh (Value.ofText? visit.request.queryTarget?))

/-- A request that is turned away. -/
def deny (site : Site) (request : Request) (denial : Denial) : Except Fault Response :=
  if site.traps denial then .error (.denied denial)
  else (Response.denied denial !request.wantsHead).checked

/-- Whether the body of a request is longer than is allowed. Only a length that is told counts; a form
in parts is told to be too large by its reader. -/
def tooLong (site : Site) (request : Request) : Except Fault Bool :=
  let length := request.octets.length
  if !request.hasLength then .ok request.hasLargeParts
  else match site.settings.bodyLimit.limits length with
    | .ok false =>
      if request.isForm then site.settings.formLimit.limits length else .ok request.hasLargeParts
    | r => r

/-- What a login leads to. One that succeeds but leads nowhere, because the landing place is null,
fails after all: there is no form to show. -/
def afterLogin (site : Site) (visit : Visit) (outcome : Outcome) (session : Session) :
    Reply Response :=
  match outcome.location, outcome.view? with
  | .null, none => .same (.error .noForm) session
  | .null, some view => site.showLoginPage visit session outcome.status view
  | location, _ => .same (redirectTo location) session

def submitLogin (site : Site) (visit : Visit) (session : Session) : Reply Response :=
  let request := visit.request
  match site.tooLong request, request.payload with
  | .error fault, _ => .same (.error fault) session
  | .ok true, _ => .same (site.deny request .tooLarge) session
  | .ok false, .error fault => .same (.error fault) session
  | .ok false, .ok payload =>
    let login := site.gate.login session payload (Value.ofText? request.target?) request.origin
    (site.permit session login).andThen fun outcome session =>
      site.afterLogin visit outcome session

def logoutNotice : String := "You have been logged out."

def logout (site : Site) (request : Request) (session : Session) : Reply Response :=
  (site.permit session (site.gate.logout session request.origin)).andThen fun outcome session =>
    match session.addNotice "info" logoutNotice with
    | .error fault => .same (.error fault) session
    | .ok session => ⟨redirectTo outcome.location, session, true, []⟩

/-- The location of a place that was asked for by another path. The site calls itself by `name`
there. -/
def movedTo (request : Request) (name : String) (path : List Char) : Denial :=
  let address := request.address
  let root := Text.trim Address.isSlash address.root.toList
  let path := (Percent.encode Location.isMark path).dropWhile Address.isSlash
  let location := Url.Parts.join
    { scheme := if address.scheme.isEmpty then "http".toList else address.scheme.toList
      authority := name.toList
      path := root ++ '/' :: path
      query := request.query.toList
      fragment := [] }
  .moved (String.ofList location)

/-- How the site is asked by a request. -/
def asked (site : Site) (request : Request) : Asked :=
  ⟨request.method, request.address.isLasting, site.settings.offersOptions⟩

/-- The answer of a site that calls itself by `name`. -/
def answerAs (site : Site) (name : String) (visit : Visit) (session : Session) : Reply Response :=
  let request := visit.request
  match Route.of (site.asked request) request.path with
  | .notFound => .same (site.deny request .notFound) session
  | .notAllowed => .same (site.deny request .notAllowed) session
  | .wrongProtocol => .same (site.deny request .wrongProtocol) session
  | .moved path => .same (site.deny request (movedTo request name path)) session
  | .methods => .same (.ok .methods) session
  | .endpoint .dashboard => site.dashboard visit session
  | .endpoint .loginForm => site.loginForm visit session
  | .endpoint .submitLogin => site.submitLogin visit session
  | .endpoint .logout => site.logout request session

def answer (site : Site) (standing : Except Denial String) (visit : Visit) (session : Session) :
    Reply Response :=
  match standing with
  | .ok name => site.answerAs name visit session
  | .error denial => .same (site.deny visit.request denial) session

end Gatehouse.Site
