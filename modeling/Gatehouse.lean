import Gatehouse.Gate.Run
import Gatehouse.Json.Writer
import Gatehouse.Settings
import Gatehouse.Site.Server
import Gatehouse.Url.Query.Lemmas
import Gatehouse.User
import Gatehouse.Proofs.Detour
import Gatehouse.Proofs.History
import Gatehouse.Proofs.LoginPage
import Gatehouse.Proofs.Channels
import Gatehouse.Proofs.Page.Frame
import Gatehouse.Proofs.Page.Blocks
import Gatehouse.Proofs.Page.Notices
import Gatehouse.Proofs.Page.Shown
import Gatehouse.Proofs.Pages
import Gatehouse.Proofs.Gate.Deeds
import Gatehouse.Proofs.Checked
import Gatehouse.Proofs.Clients
import Gatehouse.Proofs.Audit
import Gatehouse.Proofs.Channel.Encoder
import Gatehouse.Proofs.Guest
import Gatehouse.Proofs.Page.Hidden
import Gatehouse.Proofs.Retries
import Gatehouse.Proofs.Target
import Gatehouse.Proofs.Gate.Verdict
import Gatehouse.Proofs.Guard
import Gatehouse.Proofs.Service
import Gatehouse.Proofs.Gate.Digests
import Gatehouse.Proofs.Style.Built
import Gatehouse.Proofs.Channel.Fields
import Gatehouse.Proofs.Route
import Gatehouse.Proofs.FirstValues
import Gatehouse.Proofs.Page.Count
import Gatehouse.Proofs.Spending
import Gatehouse.Proofs.Delivery
