import Gatehouse.Http.Request
import Gatehouse.Site.Settling

namespace Gatehouse

/-- A request together with the cookies that come with it. -/
structure Visit where
  request : Request
  cookies : List Cookie

/-- How sessions are protected that seem to come from another browser. All but the empty one seem to
that do not have the mark of the browser that they come with. -/
inductive Protection where
  | off | basic | strong
  deriving DecidableEq, Repr

namespace Protection

def ofSetting : Value → Protection
  | .text "basic" => .basic
  | .text "strong" => .strong
  | _ => .off

end Protection

namespace Session

/-- A session that is in doubt. -/
def doubted (s : Session) : Reply Bool :=
  match s.get? freshKey with
  | some (.bool false) => .same (.ok true) s
  | _ => ⟨.ok true, s.insert freshKey (.bool false), true, []⟩

/-- What a session loses that is not trusted. -/
def visitorKeys : List String := [userKey, orderKey, lifetimeKey, browserKey, freshKey, nextKey]

/-- A session that is not trusted: the visitor is to be forgotten. -/
def distrusted (s : Session) : Reply Bool :=
  ⟨.ok false, (visitorKeys.foldl erase s).insert orderKey (.text orderToClear), true, []⟩

/-- Whether a session has the mark of a browser. -/
def hasMark (s : Session) (mark : String) : Bool :=
  match s.get? browserKey with
  | some (.text t) => t = mark
  | _ => false

/-- Whether a session is trusted that comes with a browser of some mark. A permanent session is
never worse than doubted. -/
def check (s : Session) (mark : String) (protection : Protection) : Reply Bool :=
  if s.isEmpty || s.hasMark mark then .same (.ok true) s
  else match protection with
    | .off => .same (.ok true) s
    | .basic => s.doubted
    | .strong => if s.isPermanent then s.doubted else s.distrusted

/-- Whether a token counts: not where the visitor is about to be forgotten. -/
def heedsToken (s : Session) : Bool :=
  match s.get? orderKey with
  | some (.text order) => order ≠ orderToClear
  | _ => true

/-- The session of a visitor who is remembered by a token. -/
def withToken (s : Session) (token : String) : Session :=
  (s.insert userKey (.text token)).insert freshKey (.bool false)

end Session

namespace Site

/-- The username in the record of the session, else that of a valid pair in the authorization
header. Such a pair counts as a login and leaves a record, but no line in the log. -/
def identify (site : Site) (request : Request) (session : Session) : Reply (Option String) :=
  match session.username? with
  | some username => .same (.ok (some username)) session
  | none =>
    match request.basicPair? with
    | .error fault => .same (.error fault) session
    | .ok none => .same (.ok none) session
    | .ok (some (username, password)) =>
      (site.permit session (site.gate.vouch session ⟨.text username, .text password⟩)).map
        fun valid => if valid then some username else none

/-- The token that counts, if a browser shows one. -/
def token? (site : Site) (cookies : List Cookie) (session : Session) :
    Except Fault (Option Carried) :=
  let name := site.settings.tokenCookie.name
  (checkKey name).map fun _ =>
    if session.heedsToken then Cookie.carried? name cookies else none

/-- Whom a token speaks of. A text with a bar in it could be a token, so its signature is looked
at. -/
def remembered? (site : Site) : Carried → Except Fault (Option String)
  | .token visitor => .ok (some visitor)
  | .session _ => .ok none
  | .text s => if s.contains '|' then site.checkTokenSecret.map fun _ => none else .ok none

/-- The username of a visitor whose session is trusted. The site knows no remembered visitors, so
one who comes with a token has no username, whatever the session or the header says. -/
def trustedVisitor (site : Site) (visit : Visit) (session : Session) : Reply (Option String) :=
  match site.token? visit.cookies session with
  | .error fault => .same (.error fault) session
  | .ok none => site.identify visit.request session
  | .ok (some token) =>
    match site.remembered? token with
    | .error fault => .same (.error fault) session
    | .ok none => .same (.ok none) session
    | .ok (some visitor) => ⟨.ok none, session.withToken visitor, true, []⟩

/-- The username of the visitor. -/
def visitor (site : Site) (visit : Visit) (session : Session) : Reply (Option String) :=
  match visit.request.mark with
  | .error fault => .same (.error fault) session
  | .ok mark =>
    (session.check mark (.ofSetting site.settings.protection)).andThen fun trusted session =>
      if trusted then site.trustedVisitor visit session else .same (.ok none) session

end Site

end Gatehouse
