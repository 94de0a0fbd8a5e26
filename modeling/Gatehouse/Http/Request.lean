import Gatehouse.Digest.Sha512
import Gatehouse.Http.Address
import Gatehouse.Http.Authorization
import Gatehouse.Http.Endpoint
import Gatehouse.Json.Octets
import Gatehouse.Url.Query

namespace Gatehouse

/-- What a reader of forms in parts makes of a body. -/
inductive Parts where
  /-- Fields in order; a part may come without a name. -/
  | read (fields : List (Option String × String))
  /-- A part, or all of them, are more than is allowed. -/
  | tooLarge

namespace Parts

/-- The fields that have a name. -/
def named : Parts → List (String × String)
  | .read fields => fields.filterMap fun (name, value) => name.map fun n => (n, value)
  | .tooLarge => []

def hasNameless : Parts → Bool
  | .read fields => fields.any fun field => field.1.isNone
  | .tooLarge => false

def isTooLarge : Parts → Bool
  | .read _ => false
  | .tooLarge => true

end Parts

/-- What is sent, wherever it goes to. -/
structure Message where
  /-- The name of the method, as it was given. -/
  verb : String
  query : String
  body : String
  contentType : Option String
  authorization : Option String
  /-- The address that it comes from. -/
  origin : Value
  /-- The program that sends it. -/
  agent : String
  /-- What a reader of forms in parts makes of the body; it counts where the content type names such a
  form. How these forms are written is left open, so that the body may be read in any way. -/
  parts : Parts := .read []

structure Request extends Message where
  address : Address

/-- The headers that a message may carry, one after the other. -/
def Message.headerText (m : Message) : List Char :=
  (m.contentType.getD "").toList ++ (m.authorization.getD "").toList

/-- The message as it goes to an address. A line must not end in its headers. -/
def Message.sentTo (m : Message) (base : Address.Base) (address : String) : Except Fault Request :=
  (Address.read base address).bind fun address =>
    if m.headerText.any Location.isNewline then .error .newlineInHeader else .ok { m with address }

namespace Request

def path (r : Request) : String := r.address.path

def method (r : Request) : Method := .ofName r.verb

/-- Whether only the head of the response is wanted; this is so for the plain name of the method
alone. -/
def wantsHead (r : Request) : Bool := r.verb = "HEAD"

/-- The octets of the body. -/
def octets (r : Request) : List UInt8 := Utf8.encode r.body.toList

/-- The content type without its parameters. -/
def plainType (r : Request) : List Char := (Text.cutAt ';' (r.contentType.getD "").toList).1

def formType : List Char := "application/x-www-form-urlencoded".toList

/-- Whether the length of the body is told: an empty body has a length if it is a form. -/
def hasLength (r : Request) : Bool :=
  !r.body.isEmpty || Text.trim isBlank r.plainType = formType

/-- The content type without its parameters, in lower case. -/
def mediaType (r : Request) : List Char :=
  (Text.trim isHeaderBlank r.plainType).map Char.toLower

/-- JSON itself, and the types of applications that build on it. -/
def isJson (r : Request) : Bool :=
  let media := r.mediaType
  media = "application/json".toList ||
    ("application/".toList.isPrefixOf media && "+json".toList.isSuffixOf media)

def isForm (r : Request) : Bool := r.mediaType = formType

def partedType : List Char := "multipart/form-data".toList

/-- Whether the body is a form in parts. -/
def isParted (r : Request) : Bool := r.mediaType = partedType

def hasLargeParts (r : Request) : Bool := r.isParted && r.parts.isTooLarge

def queryPairs (r : Request) : List (String × String) := Query.read r.query.toList

/-- The pairs of a form body; other bodies have none. -/
def formPairs (r : Request) : List (String × String) :=
  if r.isForm then Query.read r.body.toList
  else if r.isParted then r.parts.named
  else []

/-- The name in the brackets of a field `session[name]`. -/
def bracketed? (name : String) : Option String :=
  match Text.after? "session[".toList name.toList with
  | some rest => if rest.getLast? = some ']' then some (String.ofList rest.dropLast) else none
  | none => none

/-- The first pair of each name. -/
def firsts : List (String × String) → List (String × String)
  | [] => []
  | p :: rest => p :: (firsts rest).filter fun q => q.1 ≠ p.1

/-- The fields of the login form that a form body holds. -/
def formFields (r : Request) : List (String × String) :=
  (firsts r.formPairs).filterMap fun (name, value) => (bracketed? name).map fun n => (n, value)

/-- The fields of the login form as a login payload. -/
def formPayload (r : Request) : Datum :=
  match r.formFields with
  | [] => .map []
  | fields => .ofFields [("session", .ofFields (fields.map fun (n, v) => (n, .text v)))]

/-- The login payload: the value of a JSON body, where null stands for one that cannot be read, or
else the fields of the login form. All names in a form have to be texts to be looked through. -/
def payload (r : Request) : Except Fault Datum :=
  if r.isJson then Json.ofOctets r.octets
  else if r.isParted && r.parts.hasNameless then .error (.notText .compared .null)
  else .ok r.formPayload

def targetName : String := "redirect_to"

/-- The target in the query. -/
def queryTarget? (r : Request) : Option String := Query.first? targetName r.queryPairs

/-- The target of a submission: the one in the query, even if it is empty, before the one in the
form. -/
def target? (r : Request) : Option String :=
  match r.queryTarget? with
  | some t => some t
  | none => Query.first? targetName r.formPairs

/-- The pair in the authorization header. -/
def basicPair? (r : Request) : Except Fault (Option (String × String)) :=
  match r.authorization with
  | some header => Authorization.basicPair? header
  | none => .ok none

/-- The path with one slash in front of it. -/
def normalPath (r : Request) : List Char := Route.normal r.path.toList

/-- The place that was asked for: the path with its query, if it has one. -/
def place (r : Request) : List Char :=
  if r.query.isEmpty then r.normalPath else r.normalPath ++ '?' :: r.query.toList

/-- The first of the addresses that the request came from, as octets in quotes. -/
def originText (r : Request) : Except Fault (List Char) :=
  match r.origin with
  | .null => .ok Value.null.literal
  | .text s =>
    let first := Text.trim isPlainBlank (Text.cutAt ',' s.toList).1
    .ok (Quoted.octets (Utf8.encode first))
  | v => .error (.notText .encoded v.kind)

/-- The mark of a browser: the digest of where the request came from and of the program that sent
it. -/
def mark (r : Request) : Except Fault String :=
  r.originText.map fun origin =>
    let whole := origin ++ '|' :: Quoted.octets (Utf8.encode r.agent.toList)
    String.ofList (Hex.write (Sha512.digest (Utf8.encode whole)))

end Request

end Gatehouse
