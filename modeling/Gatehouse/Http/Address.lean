import Gatehouse.Fault
import Gatehouse.Text.Blank
import Gatehouse.Url.Location

namespace Gatehouse

structure Address where
  scheme : String
  /-- The host with its port, and with whoever asks. -/
  host : String
  /-- The path under which the site stands, without a slash at its end. -/
  root : String
  path : String
  deriving DecidableEq, Repr

namespace Address

/-- What an address is completed with where it does not say it itself. -/
structure Base where
  scheme : Value
  host : Value
  root : Value

/-- The host that the site stands on if no other is named. -/
def ownHost : String := "localhost"

def isSlash (c : Char) : Bool := c = '/'

namespace Base

/-- The root without the slashes in front of it. -/
def bareRoot (base : Base) : Except Fault (List Char) :=
  match base.root with
  | .text s => .ok (s.toList.dropWhile isSlash)
  | .bytes _ => .error .octets
  | v => .error (.notText .stripped v.kind)

def hostText (base : Base) : List Char :=
  if base.host.truthy then base.host.toText.toList else ownHost.toList

/-- The location of the site for an address with some parts. -/
def location (base : Base) (parts : Url.Parts) : Except Fault (List Char) :=
  base.bareRoot.map fun root =>
    let scheme := if parts.scheme.isEmpty then base.scheme.toText.toList else parts.scheme
    let host := if parts.authority.isEmpty then base.hostText else parts.authority
    scheme ++ ':' :: '/' :: '/' :: host ++ '/' :: root

end Base

def readParts (cs : List Char) : Except Fault Url.Parts :=
  (Location.read cs).mapError .badLocation

def encodeLocation (cs : List Char) : Except Fault (List Char) :=
  (Location.encode cs).mapError .badLocation

/-- The site's own place: its scheme, host and root. -/
def readPlace (location : List Char) : Except Fault Url.Parts := do
  let encoded ← encodeLocation location
  let place ← readParts encoded
  if place.query.isEmpty && place.fragment.isEmpty then .ok place else .error .baseWithQuery

/-- The address that a text stands for. Scheme and host are told apart, the rest is taken for a
location again, and what is escaped in its path is decoded. A query has no place in it. -/
def read (base : Base) (text : String) : Except Fault Address := do
  let parts ← readParts text.toList
  let location ← base.location parts
  if !parts.query.isEmpty then .error .twoQueries
  else
    let inner ← readParts parts.path
    let path ← encodeLocation inner.path
    let place ← readPlace location
    let root := Percent.decode (Text.trimEnd isSlash place.path)
    return { scheme := String.ofList place.scheme
             host := String.ofList place.authority
             root := String.ofList (Text.trimEnd isSlash root)
             path := String.ofList (Percent.decode path) }

/-- The port that a scheme implies, behind a colon. -/
def impliedPort (scheme : String) : List Char :=
  if scheme = "http" ∨ scheme = "ws" then ":80".toList
  else if scheme = "https" ∨ scheme = "wss" then ":443".toList
  else []

/-- A host without the port that its scheme implies. -/
def dropPort (scheme : String) (host : List Char) : List Char :=
  let port := impliedPort scheme
  if port.isSuffixOf host then host.take (host.length - port.length) else host

def isNameMark (c : Char) : Bool := c.isAlphanum || c = '.' || c = '-'

def isGroupMark (c : Char) : Bool := (Hex.value? c).isSome || c = '.' || c = ':'

/-- A port behind a colon, or nothing. -/
def isPort : List Char → Bool
  | [] => true
  | ':' :: digits => !digits.isEmpty && digits.all Char.isDigit
  | _ => false

/-- Groups of digits with a colon after the first and more behind it. -/
def isGroups (cs : List Char) : Bool :=
  match Text.cutAt ':' cs with
  | (first, some rest) =>
    first.all (fun c => (Hex.value? c).isSome) && !rest.isEmpty && rest.all isGroupMark
  | (_, none) => false

/-- A name or a numeric address, and perhaps a port. -/
def isHost : List Char → Bool
  | '[' :: rest =>
    match Text.cutAt ']' rest with
    | (groups, some port) => isGroups groups && isPort port
    | (_, none) => false
  | cs =>
    let name := cs.takeWhile isNameMark
    !name.isEmpty && isPort (cs.dropWhile isNameMark)

/-- The host as the site understands it; none if it is no host at all. -/
def knownHost (a : Address) : List Char :=
  let host := dropPort a.scheme a.host.toList
  if isHost host then host else []

/-- The host by which cookies are told apart. -/
def cookieHost (a : Address) : String :=
  let host := (Authority.cutPlace a.knownHost).1
  if host.isEmpty then ownHost else String.ofList host

/-- A path in which each octet is a character of its own before it is escaped. -/
def escapeOctets (cs : List Char) : List Char :=
  Percent.encode Location.isKept ((Utf8.encode cs).map fun b => Char.ofNat b.toNat)

/-- The path by which cookies are told apart. -/
def cookiePath (a : Address) : String :=
  String.ofList (escapeOctets a.root.toList ++
    '/' :: escapeOctets (a.path.toList.dropWhile isSlash))

/-- Whether a lasting connection is asked for. -/
def isLasting (a : Address) : Bool := a.scheme = "ws" || a.scheme = "wss"

end Address

example : (Address.read ⟨.text "http", .null, .text "/"⟩ "/lo%67out#x").toOption =
    some ⟨"http", "localhost", "", "/logout"⟩ := by
  decide +kernel

end Gatehouse
