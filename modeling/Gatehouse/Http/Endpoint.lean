import Gatehouse.Text.Cut
import Gatehouse.Text.Letter

namespace Gatehouse

inductive Method where
  | get | head | options | post
  | other (name : String)
  deriving DecidableEq, Repr

namespace Method

/-- The case of a name does not matter. -/
def ofName (name : String) : Method :=
  match String.ofList (Letter.capitals name.toList) with
  | "GET" => .get
  | "HEAD" => .head
  | "OPTIONS" => .options
  | "POST" => .post
  | name => .other name

def name : Method → String
  | .get => "GET"
  | .head => "HEAD"
  | .options => "OPTIONS"
  | .post => "POST"
  | .other name => name

end Method

inductive Endpoint where
  | dashboard | submitLogin | loginForm | logout
  deriving DecidableEq, Repr

namespace Endpoint

def all : List Endpoint := [.dashboard, .submitLogin, .loginForm, .logout]

def name : Endpoint → String
  | .dashboard => "dashboard.index"
  | .submitLogin => "auth.create_session"
  | .loginForm => "auth.login"
  | .logout => "auth.logout"

def path : Endpoint → String
  | .dashboard => "/"
  | .submitLogin => "/login"
  | .loginForm => "/login"
  | .logout => "/logout"

/-- The methods of an endpoint in the order of their names. What answers GET answers HEAD as
well. -/
def allMethods : Endpoint → List Method
  | .dashboard => [.get, .head, .options]
  | .submitLogin => [.options, .post]
  | .loginForm => [.get, .head, .options]
  | .logout => [.get, .head, .options, .post]

/-- The methods where asking for the methods itself is answered or not. -/
def methods (options : Bool) (e : Endpoint) : List Method :=
  e.allMethods.filter fun m => options || m ≠ .options

/-- The endpoints of a path. -/
def atPath (path : String) : List Endpoint := all.filter fun e => e.path = path

end Endpoint

/-- What stands at a path: endpoints, or the room for files, which holds none. -/
inductive Place where
  | endpoints (found : List Endpoint)
  | file
  deriving DecidableEq, Repr

namespace Place

/-- A name in the room for files: it does not start with a slash and has no second line. -/
def isFileName : List Char → Bool
  | [] => false
  | c :: rest => c ≠ '/' && !rest.contains '\n'

/-- What stands at a path; `none` for a path where nothing does. -/
def at? (path : List Char) : Option Place :=
  match Text.after? "/static/".toList path with
  | some name => if isFileName name then some .file else none
  | none =>
    match Endpoint.atPath (String.ofList path) with
    | [] => none
    | found => some (.endpoints found)

/-- What is answered at a place: the methods of each endpoint there. Asking for the methods of the
room for files is always answered. -/
def offers (options : Bool) : Place → List (List Method × Option Endpoint)
  | .endpoints found => found.map fun e => (e.methods options, some e)
  | .file => [([.get, .head, .options], none)]

end Place

/-- How something is asked for at a path. -/
structure Asked where
  method : Method
  /-- Whether a lasting connection is asked for. -/
  lasting : Bool
  /-- Whether asking for the methods of an endpoint is answered. -/
  options : Bool

/-- What a request is answered by. -/
inductive Route where
  | notFound
  | notAllowed
  | wrongProtocol
  | methods
  | endpoint (e : Endpoint)
  /-- What was asked for stands at another path. -/
  | moved (path : List Char)
  deriving DecidableEq, Repr

namespace Route

/-- The answer of an endpoint, or of a file that is not there. -/
def offered (method : Method) : Option Endpoint → Route
  | some e => if method = .options then .methods else .endpoint e
  | none => if method = .options then .methods else .notFound

/-- How a method is answered at a place. No place has lasting connections. -/
def atPlace (asked : Asked) (place : Place) : Route :=
  let offers := place.offers asked.options
  let allows (offer : List Method × Option Endpoint) : Bool := offer.1.contains asked.method
  if asked.lasting then if offers.all allows then .wrongProtocol else .notAllowed
  else match offers.find? allows with
    | some (_, e) => offered asked.method e
    | none => .notAllowed

/-- One slash in place of every stretch of them. -/
def mergeSlashes (path : List Char) : List Char :=
  path.foldr (fun c done => if c = '/' ∧ done.head? = some '/' then done else c :: done) []

/-- Where nothing stands at a path, the path with fewer slashes is tried. What is allowed there is
moved. -/
def elsewhere (asked : Asked) (path : List Char) : Route :=
  let merged := mergeSlashes path
  match (Place.at? merged).map (atPlace asked) with
  | none => .notFound
  | some .notAllowed => .notAllowed
  | some .wrongProtocol => .wrongProtocol
  | some _ => .moved merged

/-- One slash in front, however many there were. -/
def normal (path : List Char) : List Char := '/' :: path.dropWhile (· = '/')

/-- The route of a request. The empty path is another name of the root for those who may ask
there. -/
def of (asked : Asked) (path : String) : Route :=
  if path.isEmpty then
    if !asked.lasting && (Endpoint.dashboard.methods asked.options).contains asked.method then
      .moved ['/']
    else .notFound
  else
    let path := normal path.toList
    match Place.at? path with
    | some place => atPlace asked place
    | none => elsewhere asked path

end Route

example : Route.of ⟨.get, false, true⟩ "/login" = .endpoint .loginForm := by decide

example : Route.of ⟨.get, false, true⟩ "/static///x" = .moved "/static/x".toList := by decide

example : Route.of ⟨.get, true, true⟩ "/login" = .notAllowed ∧
    Route.of ⟨.options, true, true⟩ "/login" = .wrongProtocol := by
  decide

end Gatehouse
