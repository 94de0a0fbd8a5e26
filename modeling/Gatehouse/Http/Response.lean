import Gatehouse.Fault
import Gatehouse.Http.Page
import Gatehouse.Url.Location

namespace Gatehouse

inductive Response where
  /-- A page; it is made but not sent where only its head was asked for. -/
  | page (status : Nat) (page : Page) (sent : Bool)
  | redirect (location : String)
  | methods
  /-- The request was turned away; the reason is not sent where only the head was asked for. -/
  | denied (denial : Denial) (sent : Bool)
  /-- The site failed; the fault is not told. -/
  | failed
  deriving DecidableEq, Repr

namespace Response

def status : Response → Nat
  | .page status _ _ => status
  | .redirect _ => 302
  | .methods => 200
  | .denied denial _ => denial.status
  | .failed => 500

def location? : Response → Option String
  | .redirect location => some location
  | .denied (.moved location) _ => some location
  | _ => none

/-- The text of the response, where it tells more than its status does. -/
def body? : Response → Option String
  | .page _ p true => some p.render
  | .page _ _ false => some ""
  | .methods => some ""
  | .denied denial true => if denial.isBadRequest then some denial.page else none
  | .denied denial false => if denial.isBadRequest then some "" else none
  | _ => none

def page? : Response → Option Page
  | .page _ p _ => some p
  | _ => none

/-- A line must not end in a location. -/
def checked (r : Response) : Except Fault Response :=
  match r.location? with
  | some location =>
    if location.toList.any Location.isNewline then .error .newlineInHeader else .ok r
  | none => .ok r

def sealText (location : String) : Except LocationFlaw String :=
  (Location.encode location.toList).map String.ofList

/-- The response as it is sent. -/
def sealed : Response → Except LocationFlaw Response
  | .redirect location => (sealText location).map .redirect
  | .denied (.moved location) sent =>
    (sealText location).map fun location => .denied (.moved location) sent
  | r => .ok r

/-- Headers that every response carries. -/
def fixedHeaders : List (String × String) :=
  [("Content-Security-Policy",
      "default-src 'self'; style-src 'self' 'unsafe-inline'; img-src 'self' data:; " ++
      "frame-ancestors 'none'; base-uri 'self'; form-action 'self'"),
   ("X-Content-Type-Options", "nosniff"),
   ("X-Frame-Options", "DENY"),
   ("Referrer-Policy", "strict-origin-when-cross-origin")]

end Response

end Gatehouse
