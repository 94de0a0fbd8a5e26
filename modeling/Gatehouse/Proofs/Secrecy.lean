import Gatehouse.Proofs.Form
import Gatehouse.Site.Run

namespace Gatehouse

def Settings.withPair (s : Settings) (username password : String) : Settings :=
  { s with username := .text username, password := .text password }

/-- The site with another configured pair. -/
def Site.withPair (site : Site) (username password : String) : Site where
  gate := { site.gate with configured := ⟨.text username, .text password⟩ }
  settings := site.settings.withPair username password

namespace Site

/-- A request submits a pair as a login that the site takes in. A form that is too long is turned away
before it is read. -/
def Submits (site : Site) (request : Request) (username password : Datum) : Prop :=
  Route.of (site.asked request) request.path = .endpoint .submitLogin ∧
    site.tooLong request = .ok false ∧
    ∃ payload target, request.payload = .ok payload ∧
      Submission.ofPayload payload target = .ok ⟨username, password, target⟩

variable {site : Site} {visit : Visit} {session : Session} {u p v q : String}

/-- A login form filled in with the same pair. -/
def guessedForm : Message where
  verb := "POST"
  query := ""
  body := formBody "/" "admin" "wrong"
  contentType := some (String.ofList Request.formType)
  authorization := none
  origin := .text "127.0.0.1"
  agent := "test"

end Site

end Gatehouse
