import Gatehouse.Proofs.Detour
import Gatehouse.Proofs.Page.Shown
import Gatehouse.Proofs.Rejection

namespace Gatehouse

namespace Browser

variable {b : Browser}

end Browser

namespace Session

variable {s : Session}

end Session

namespace Site

variable {site : Site} {b : Browser} {request : Request} {path origin : String}

/-- An order looks at nothing in the session but the visitor and the time. -/
theorem remember_congr {s t : Session} (huser : t.get? Session.userKey = s.get? Session.userKey)
    (htime : t.get? Session.lifetimeKey = s.get? Session.lifetimeKey) (address : Address)
    (order : Value) : site.remember address t order = site.remember address s order := by
  unfold remember newToken
  simp only [huser, htime]

end Site

end Gatehouse
