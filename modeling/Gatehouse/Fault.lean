import Gatehouse.Http.Denial
import Gatehouse.Url.Flaw

namespace Gatehouse

/-- How a login payload can be malformed. -/
inductive Flaw where
  | notMap
  | noSession
  | notTexts
  deriving DecidableEq, Repr

def Flaw.message : Flaw → String
  | .notMap => "payload is not a mapping"
  | .noSession => "missing session parameters"
  | .notTexts => "username and password must be strings"

/-- How a time can be unusable, be it the one for which a visitor is to be remembered or the one for
which a session lasts. -/
inductive LifetimeFlaw where
  /-- A value of this kind is no number. -/
  | notNumber (kind : Kind)
  | undefined
  | infinite
  /-- So many whole days are more than a time span can have. -/
  | days (count : Int)
  /-- The days are too many to be counted in one word. -/
  | beyondWord
  /-- The time ends outside the calendar. -/
  | beyondCalendar
  deriving DecidableEq, Repr

def LifetimeFlaw.message : LifetimeFlaw → String
  | .notNumber kind => "unsupported type for timedelta seconds component: " ++ kind.name
  | .undefined => "cannot convert float NaN to integer"
  | .infinite => "cannot convert float infinity to integer"
  | .days count => "days=" ++ toString count ++ "; must have magnitude <= 999999999"
  | .beyondWord => "int too large to convert to C int"
  | .beyondCalendar => "date value out of range"

/-- What is done with a text. -/
inductive TextUse where
  | encoded | titled | lowered | cut | stripped | compared
  deriving DecidableEq, Repr

/-- The name by which messages call a use. -/
def TextUse.name : TextUse → String
  | .encoded => "encode"
  | .titled => "title"
  | .lowered => "lower"
  | .cut => "partition"
  | .stripped => "lstrip"
  | .compared => "startswith"

inductive Fault where
  /-- A login payload lacks what a submission needs. -/
  | malformed (flaw : Flaw)
  /-- A value of this kind was to be used as only a text can be. -/
  | notText (use : TextUse) (kind : Kind)
  /-- Octets were to be cut apart or stripped as only a text can be. -/
  | octets
  /-- Octets were to be compared with an end of a text. -/
  | octetsAtEnd (member : String)
  /-- A value of this kind was to be gone through one by one. -/
  | notSeries (kind : Kind)
  /-- A key holds a value of this kind and cannot be looked up. -/
  | unhashable (kind : Kind)
  /-- A class was looked up where there is no map of classes. -/
  | noClasses
  /-- The settings lack a username or a password. -/
  | credentialsUnset
  /-- A login page was to be shown for a result that has no form. -/
  | noForm
  /-- A dashboard was to be shown to a visitor without a name. -/
  | noUsername
  /-- A text was to be encoded in which halves of surrogate pairs stand alone: the first of them, and
  the places of the first and the last that stand side by side. -/
  | loneHalf (half first last : Nat)
  /-- Credentials in a header hold a character past the first 128. -/
  | notAscii
  | newlineInHeader
  | badLocation (flaw : LocationFlaw)
  /-- An address has a query, but the query comes separately. -/
  | twoQueries
  /-- The place of the site itself has a query or a fragment. -/
  | baseWithQuery
  /-- Lists or maps in a JSON text are nested too deeply. -/
  | tooDeep (kind : Kind)
  /-- Values of these kinds were to be compared in size. -/
  | notOrdered (sign : Char) (left right : Kind)
  /-- A key of this kind has no name to be stored under. -/
  | nameless (kind : Kind)
  /-- A notice was to be added to a value of this kind. -/
  | notGrowing (kind : Kind)
  /-- A value of this kind stands where a notice should. -/
  | notNotice (kind : Kind)
  /-- A notice has so few members. -/
  | tooFewMembers (count : Nat)
  | tooManyMembers
  /-- A session was to be written, but there is no key to sign it with. -/
  | noSecret
  /-- A session was to be replaced, but there is no key to sign it with. -/
  | noSession
  /-- The key that signs sessions is of this kind and no text. -/
  | badSecret (kind : Kind)
  /-- The key that signs tokens has characters past the first 256: the first of them, and the places
  of the first and the last that stand side by side. -/
  | wideSecret (c : Char) (first last : Nat)
  /-- A cookie was to be kept to a site by a rule that there is not. -/
  | badSameSite
  /-- A cookie was to be kept to paths that are none. -/
  | badCookiePath
  /-- A cookie without a name arrived. -/
  | namelessCookie
  | badLifetime (flaw : LifetimeFlaw)
  /-- There is no time for which a session lasts. -/
  | noLifetime
  /-- The end of a session was to be told without such a time. -/
  | noLifetimeAhead
  /-- What stands for the time for which a visitor is remembered is none. -/
  | notDuration (written : String)
  /-- The request was turned away, and this is to be told as a fault. -/
  | denied (denial : Denial)
  deriving DecidableEq, Repr

/-- What a list or map is called in a JSON text. -/
def Kind.jsonName : Kind → String
  | .map => "object"
  | _ => "array"

def lacks (kind : Kind) (member : String) : String :=
  "'" ++ kind.name ++ "' object has no attribute '" ++ member ++ "'"

/-- A character at its place, or a stretch of them. -/
def placedText (numbered : List Char) (first last : Nat) : String :=
  if first = last then
    "character '" ++ String.ofList numbered ++ "' in position " ++ toString first
  else "characters in position " ++ toString first ++ "-" ++ toString last

def Fault.message : Fault → String
  | .malformed flaw => flaw.message
  | .notText use kind => lacks kind use.name
  | .octets => "a bytes-like object is required, not 'str'"
  | .octetsAtEnd member => member ++ " first arg must be bytes or a tuple of bytes, not str"
  | .notSeries kind => "'" ++ kind.name ++ "' object is not iterable"
  | .unhashable kind => "unhashable type: '" ++ kind.name ++ "'"
  | .noClasses => "argument of type 'NoneType' is not iterable"
  | .credentialsUnset => "DASHBOARD_USERNAME and DASHBOARD_PASSWORD must both be set"
  | .noForm => lacks .null "form"
  | .noUsername => "'AnonymousUserMixin' object has no attribute 'username'"
  | .loneHalf half first last =>
    "'utf-8' codec can't encode " ++ placedText ('\\' :: 'u' :: Hex.fixed 4 half) first last ++
      ": surrogates not allowed"
  | .notAscii => "string argument should contain only ASCII characters"
  | .newlineInHeader => "Header values must not contain newline characters."
  | .badLocation flaw => flaw.message
  | .twoQueries => "Query string is defined in the path and as an argument"
  | .baseWithQuery => "base url must not contain a query string or fragment"
  | .tooDeep kind =>
    "maximum recursion depth exceeded while decoding a JSON " ++ kind.jsonName ++
      " from a unicode string"
  | .notOrdered sign left right =>
    "'" ++ sign.toString ++ "' not supported between instances of '" ++ left.name ++ "' and '" ++
      right.name ++ "'"
  | .nameless kind => "keys must be str, int, float, bool or None, not " ++ kind.name
  | .notGrowing kind => lacks kind "append"
  | .notNotice kind => "cannot unpack non-iterable " ++ kind.name ++ " object"
  | .tooFewMembers count => "not enough values to unpack (expected 2, got " ++ toString count ++ ")"
  | .tooManyMembers => "too many values to unpack (expected 2)"
  | .noSecret =>
    "The session is unavailable because no secret key was set.  " ++
      "Set the secret_key on the application to something unique and secret."
  | .noSession => "Session backend did not open a session."
  | .badSecret kind => "key: expected bytes or bytearray, but got '" ++ kind.name ++ "'"
  | .wideSecret c first last =>
    "'latin-1' codec can't encode " ++ placedText (Quoted.numbered c) first last ++
      ": ordinal not in range(256)"
  | .badSameSite => "SameSite must be 'Strict', 'Lax', or 'None'."
  | .badCookiePath => "quote_from_bytes() expected bytes"
  | .namelessCookie => ""
  | .badLifetime flaw => flaw.message
  | .noLifetime => lacks .null "total_seconds"
  | .noLifetimeAhead =>
    "unsupported operand type(s) for +: 'datetime.datetime' and 'NoneType'"
  | .notDuration written =>
    "REMEMBER_COOKIE_DURATION must be a datetime.timedelta, instead got: " ++ written
  | .denied denial => denial.message

end Gatehouse
