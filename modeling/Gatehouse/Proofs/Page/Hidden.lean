import Gatehouse.Http.Request
import Gatehouse.Proofs.Location.Spelled
import Gatehouse.Proofs.Page.Frame

namespace Gatehouse.Page

section Reading

variable {cs next : List Char}

end Reading

end Gatehouse.Page
