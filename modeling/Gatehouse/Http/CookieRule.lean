import Gatehouse.Http.Cookie
import Gatehouse.Value.Limit

namespace Gatehouse

/-- How cookies of a kind are called and where they are shown. -/
structure CookieRule where
  name : Value
  domain : Value
  path : Value
  sameSite : Value
  httpOnly : Value
  secure : Value
  /-- Whether each site around the page gets a cookie of its own. Such a cookie is secure. -/
  partitioned : Value

namespace CookieRule

def isKeptInPath (c : Char) : Bool := Location.isKept c && c ≠ ';'

/-- An octet as it stands in a path. -/
def escapeOctet (b : UInt8) : List Char :=
  if b < 0x80 then Percent.encodeChar isKeptInPath (Char.ofNat b.toNat) else Percent.escape b

/-- The path that a rule names, if it names one. -/
def pathText? (rule : CookieRule) : Except Fault (Option (List Char)) :=
  match rule.path with
  | .null => .ok none
  | .text s => .ok (some (Percent.encode isKeptInPath s.toList))
  | .bytes b => .ok (some (b.flatMap escapeOctet))
  | _ => .error .badCookiePath

/-- The domain that a rule names, if it names one. -/
def domainText? (rule : CookieRule) : Except Fault (Option (List Char)) :=
  match rule.domain with
  | .null => .ok none
  | .bool false => .ok none
  | v =>
    if !v.truthy then .ok (some v.toText.toList)
    else match v with
      | .text s =>
        let name := (Text.cutAt ':' s.toList).1.dropWhile (· = '.')
        ((HostName.encode name).map some).mapError fun flaw => .badLocation (.badHost flaw)
      | .bytes _ => .error .octets
      | v => .error (.notText .cut v.kind)

/-- The rules by which cookies are kept to a site. -/
def sameSiteRules : List String := ["Strict", "Lax", "None"]

/-- The case of such a rule does not matter, and there may be none. -/
def checkSameSite (rule : CookieRule) : Except Fault Unit :=
  match rule.sameSite with
  | .null => .ok ()
  | .text s =>
    if sameSiteRules.contains (String.ofList (Letter.titled s.toList)) then .ok ()
    else .error .badSameSite
  | .bytes _ => .error .badSameSite
  | v => .error (.notText .titled v.kind)

def nameText (rule : CookieRule) : Except Fault (List Char) :=
  match rule.name with
  | .text s => .ok s.toList
  | v => .error (.notText .encoded v.kind)

/-- A name ends at an equals sign or a semicolon, and the blanks around it are no part of it. -/
def endsName (c : Char) : Bool := c = '=' || c = ';'

def bareName (name : List Char) : String :=
  String.ofList (Text.trim isBlank (name.takeWhile (!endsName ·)))

/-- An attribute as it is written: a name alone, or a name and a text. -/
def written (name : String) (text : List Char) : List Char := name.toList ++ '=' :: text

/-- An attribute that is set or not, or else written as the text of a value. -/
def flag (name : String) : Value → List (List Char)
  | .null => []
  | .bool false => []
  | .bool true => [name.toList]
  | v => [written name v.toText.toList]

/-- The attributes that a rule has written, in order. The ones that say when a cookie ends, and to
which sites it is kept, are left out. -/
def attributes (rule : CookieRule) (domain path : Option (List Char)) : List (List Char) :=
  let secure := if rule.partitioned.truthy then .bool true else rule.secure
  (domain.map (written "Domain")).toList ++ flag "Secure" secure ++
    flag "HttpOnly" rule.httpOnly ++ (path.map (written "Path")).toList ++
    flag "Partitioned" rule.partitioned

/-- Whether a line ends in the name of a cookie or in its attributes. -/
def hasNewline (name : List Char) (attributes : List (List Char)) : Bool :=
  (name :: attributes).any fun cs => cs.any Location.isNewline

/-- An attribute as it is read: its name in lower case, and its text without blanks around it. -/
def readAttribute (cs : List Char) : List Char × List Char :=
  let (name, text) := Text.cutAt '=' cs
  ((Text.trim isBlank name).map Char.toLower, Text.trim isBlank (text.getD []))

/-- The text of the last attribute of a name. An attribute ends at a semicolon, wherever that comes
from. -/
def textOf? (name : String) (attributes : List (List Char)) : Option (List Char) :=
  let read := (attributes.flatMap (Text.splitAt ';')).map readAttribute
  (read.reverse.find? fun a => a.1 = name.toList).map Prod.snd

/-- The host of a cookie, and whether the hosts below it are shown it too. -/
def hostAt (address : Address) (attributes : List (List Char)) : String × Bool :=
  match textOf? "domain" attributes with
  | none => (address.cookieHost, false)
  | some [] => (address.cookieHost, true)
  | some host => (String.ofList host, true)

/-- Everything before the last slash. -/
def parent (path : String) : List Char :=
  match (Text.cutAtLast '/' path.toList).1 with
  | none | some [] => ['/']
  | some before => before

/-- Without a path of its own a cookie is shown beside the place that it came from. -/
def pathAt (address : Address) (attributes : List (List Char)) : String :=
  match textOf? "path" attributes with
  | none | some [] => String.ofList (parent address.cookiePath)
  | some path => String.ofList path

/-- What is left of what a cookie carries: behind a name that ends early there is no more than a
text. -/
def left (name : List Char) (carried : Carried) : Carried :=
  if name.any endsName then .text "" else carried

/-- A cookie that is too long is kept all the same, but a limit has to be one. -/
def checkLimit (limit : Value) : Except Fault Unit :=
  if limit.truthy then (limit.isExceededBy 0).map fun _ => () else .ok ()

/-- The order to keep a cookie, or to drop it where there is nothing to be carried. -/
def issue (rule : CookieRule) (limit : Value) (address : Address) (carried : Option Carried) :
    Except Fault Cookie.Order := do
  let path ← rule.pathText?
  let domain ← rule.domainText?
  rule.checkSameSite
  let name ← rule.nameText
  checkLimit limit
  let attributes := rule.attributes domain path
  if hasNewline name attributes then .error .newlineInHeader
  else
    let (host, shared) := hostAt address attributes
    let key : CookieKey := ⟨host, pathAt address attributes, bareName name⟩
    match carried with
    | some carried => return .keep ⟨key, shared, left name carried⟩
    | none => return .drop key

example :
    textOf? "path" [written "Domain" "a.b; PATH = /c".toList] = some "/c".toList ∧
      textOf? "path" [written "Domain" "a.b; x".toList, written "Path" []] = some [] := by
  decide +kernel

end CookieRule

end Gatehouse
