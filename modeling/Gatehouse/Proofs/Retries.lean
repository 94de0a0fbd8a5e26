import Gatehouse.Proofs.Channel.Encoder
import Gatehouse.Proofs.Channels
import Gatehouse.Proofs.Guest
import Gatehouse.Proofs.Page.Hidden

namespace Gatehouse

def Caller.post (caller : Caller) (body : String) : Message where
  verb := "POST"
  query := ""
  body := body
  contentType := some (String.ofList Request.formType)
  authorization := none
  origin := .text caller.origin
  agent := caller.agent

namespace Site

variable {site : Site} {b : Browser} {request : Request}

section Attempts

variable (site : Site) (caller : Caller) (encoder : Encoder)

end Attempts

section Steps

variable (caller : Caller) (encoder : Encoder)

variable {target cu cp : String} {pair : String × String} {last : Exchange Response}

end Steps

end Site

end Gatehouse
