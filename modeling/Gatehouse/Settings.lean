import Gatehouse.Gate.Basic
import Gatehouse.Http.CookieRule
import Gatehouse.Http.Endpoint
import Gatehouse.Table

namespace Gatehouse

/-- A setting that was never made is null, but a landing path that was never set is told apart from
one that was set to null. -/
structure Settings where
  secretKey : Value
  /-- Keys that signed sessions before. -/
  earlierKeys : Value
  landing : Option Value
  /-- The pair that is asked for; its texts need not be whole. -/
  username : Datum
  password : Datum
  testing : Value
  debugging : Value
  /-- Whether a request that fails raises its fault; null leaves it to whether the site is under
  test. -/
  raising : Value
  /-- Whether a request that is turned away fails. -/
  trapping : Value
  /-- Whether a request that is turned away fails if it is to blame itself. -/
  trappingBadRequests : Value
  /-- Whether the dashboard is shown without asking who the visitor is. -/
  unguarded : Value
  /-- How sessions are protected that seem to come from another browser. -/
  protection : Value
  /-- How many octets the body of a request may have. -/
  bodyLimit : Value
  /-- How many octets a form may have. -/
  formLimit : Value
  /-- How long a cookie should be at most. -/
  cookieLimit : Value
  sessionCookie : CookieRule
  /-- Whether a permanent session is sent with every response. -/
  sessionRefresh : Value
  /-- For how many seconds a session counts. -/
  sessionLifetime : Value
  tokenCookie : CookieRule
  /-- Whether the token of a remembered visitor is sent with every response. -/
  tokenRefresh : Value
  /-- For how many seconds a visitor is remembered. -/
  tokenLifetime : Value
  /-- The scheme of addresses that name none. -/
  scheme : Value
  /-- The name of the site. -/
  serverName : Value
  /-- The path under which the site stands. -/
  root : Value
  /-- The names by which the site may be called; null for any name. -/
  trustedHosts : Value
  /-- Whether asking for the methods of an endpoint is answered. -/
  automaticOptions : Value

namespace Settings

/-- The settings of an application to which nothing was said. A month is 31 days, and a year is 365
days. -/
def initial : Settings where
  secretKey := .null
  earlierKeys := .null
  landing := none
  username := .null
  password := .null
  testing := .bool false
  debugging := .bool false
  raising := .null
  trapping := .bool false
  trappingBadRequests := .null
  unguarded := .null
  protection := .null
  bodyLimit := .null
  formLimit := .int 500000
  cookieLimit := .int 4093
  sessionCookie :=
    { name := .text "session", domain := .null, path := .null, sameSite := .null
      httpOnly := .bool true, secure := .bool false
      partitioned := .bool false }
  sessionRefresh := .bool true
  sessionLifetime := .int (31 * 86400)
  tokenCookie :=
    { name := .text "remember_token", domain := .null, path := .text "/", sameSite := .null
      httpOnly := .bool true, secure := .bool false
      partitioned := .bool false }
  tokenRefresh := .null
  tokenLifetime := .int (365 * 86400)
  scheme := .text "http"
  serverName := .null
  root := .text "/"
  trustedHosts := .null
  automaticOptions := .bool true

/-- Makes a setting of the cookie that carries the session. -/
def setSessionCookie (rule : CookieRule) (name : String) (v : Value) : CookieRule :=
  match name with
  | "SESSION_COOKIE_NAME" => { rule with name := v }
  | "SESSION_COOKIE_DOMAIN" => { rule with domain := v }
  | "SESSION_COOKIE_PATH" => { rule with path := v }
  | "SESSION_COOKIE_SAMESITE" => { rule with sameSite := v }
  | "SESSION_COOKIE_HTTPONLY" => { rule with httpOnly := v }
  | "SESSION_COOKIE_SECURE" => { rule with secure := v }
  | "SESSION_COOKIE_PARTITIONED" => { rule with partitioned := v }
  | _ => rule

/-- Makes a setting of the cookie that carries the token of a remembered visitor. -/
def setTokenCookie (rule : CookieRule) (name : String) (v : Value) : CookieRule :=
  match name with
  | "REMEMBER_COOKIE_NAME" => { rule with name := v }
  | "REMEMBER_COOKIE_DOMAIN" => { rule with domain := v }
  | "REMEMBER_COOKIE_PATH" => { rule with path := v }
  | "REMEMBER_COOKIE_SAMESITE" => { rule with sameSite := v }
  | "REMEMBER_COOKIE_HTTPONLY" => { rule with httpOnly := v }
  | "REMEMBER_COOKIE_SECURE" => { rule with secure := v }
  | _ => rule

/-- Makes the setting of a name. Names of no setting change nothing. -/
def set (s : Settings) (name : String) (v : Value) : Settings :=
  match name with
  | "SECRET_KEY" => { s with secretKey := v }
  | "SECRET_KEY_FALLBACKS" => { s with earlierKeys := v }
  | "DASHBOARD_LANDING_PATH" => { s with landing := some v }
  | "DASHBOARD_USERNAME" => { s with username := .ofValue v }
  | "DASHBOARD_PASSWORD" => { s with password := .ofValue v }
  | "TESTING" => { s with testing := v }
  | "DEBUG" => { s with debugging := v }
  | "PROPAGATE_EXCEPTIONS" => { s with raising := v }
  | "TRAP_HTTP_EXCEPTIONS" => { s with trapping := v }
  | "TRAP_BAD_REQUEST_ERRORS" => { s with trappingBadRequests := v }
  | "LOGIN_DISABLED" => { s with unguarded := v }
  | "SESSION_PROTECTION" => { s with protection := v }
  | "MAX_CONTENT_LENGTH" => { s with bodyLimit := v }
  | "MAX_FORM_MEMORY_SIZE" => { s with formLimit := v }
  | "MAX_COOKIE_SIZE" => { s with cookieLimit := v }
  | "SESSION_REFRESH_EACH_REQUEST" => { s with sessionRefresh := v }
  | "PERMANENT_SESSION_LIFETIME" => { s with sessionLifetime := v }
  | "REMEMBER_COOKIE_REFRESH_EACH_REQUEST" => { s with tokenRefresh := v }
  | "REMEMBER_COOKIE_DURATION" => { s with tokenLifetime := v }
  | "PREFERRED_URL_SCHEME" => { s with scheme := v }
  | "SERVER_NAME" => { s with serverName := v }
  | "APPLICATION_ROOT" => { s with root := v }
  | "TRUSTED_HOSTS" => { s with trustedHosts := v }
  | "PROVIDE_AUTOMATIC_OPTIONS" => { s with automaticOptions := v }
  | name =>
    { s with
      sessionCookie := setSessionCookie s.sessionCookie name v
      tokenCookie := setTokenCookie s.tokenCookie name v }

/-- Makes several settings; the last of a name counts. -/
def setAll (s : Settings) (made : List (String × Value)) : Settings :=
  made.foldl (fun s (name, v) => s.set name v) s

/-- The settings of the gate and its session cookie by name, as they are read back. -/
def entries (s : Settings) : List (String × Datum) :=
  [("SECRET_KEY", .ofValue s.secretKey),
   ("SESSION_COOKIE_HTTPONLY", .ofValue s.sessionCookie.httpOnly),
   ("SESSION_COOKIE_SAMESITE", .ofValue s.sessionCookie.sameSite),
   ("DASHBOARD_LANDING_PATH", .ofValue (s.landing.getD .null)),
   ("DASHBOARD_USERNAME", s.username), ("DASHBOARD_PASSWORD", s.password)]

/-- The key that signs session cookies where the environment names none. -/
def developmentKey : String := "dev-secret-key-change-in-production-12345"

/-- An empty key in the environment counts as none. -/
def ofEnvironment (env : Table String) : Settings :=
  { initial with
    secretKey :=
      match env.get? "SECRET_KEY" with
      | none | some "" => .text developmentKey
      | some key => .text key
    sessionCookie := { initial.sessionCookie with sameSite := .text "Lax" }
    landing := some (.text "/")
    username := .ofValue (Value.ofText? (env.get? "DASHBOARD_USERNAME"))
    password := .ofValue (Value.ofText? (env.get? "DASHBOARD_PASSWORD")) }

/-- Settings for tests, which do not depend on the environment. -/
def forTests : Settings :=
  (ofEnvironment ∅).setAll
    [("TESTING", .bool true), ("SECRET_KEY", .text "test-secret-key"),
     ("DASHBOARD_USERNAME", .text "admin"), ("DASHBOARD_PASSWORD", .text "correct")]

/-- The gate that the settings describe. Any username and password will do that count as true. -/
def gate (s : Settings) : Except Fault Gate :=
  if s.username.truthy && s.password.truthy then
    .ok { configured := ⟨s.username, s.password⟩
          landing := s.landing.getD (.text "/")
          exit := .text Endpoint.loginForm.path }
  else .error .credentialsUnset

/-- What addresses are completed with. -/
def base (s : Settings) : Address.Base := ⟨s.scheme, s.serverName, s.root⟩

/-- Whether asking for the methods of an endpoint is answered. -/
def offersOptions (s : Settings) : Bool := s.automaticOptions.truthy

/-- What is logged once the gate stands. -/
def startLog (gate : Gate) : List Event := [.ready gate.landing]

end Settings

end Gatehouse
