import Gatehouse.Value.Printer

namespace Gatehouse

structure User where
  name : Value
  deriving Repr

namespace User

/-- Users are told apart by the text of their names. -/
def id (u : User) : String := u.name.toText

def same (u v : User) : Bool := u.id = v.id

def toText (u : User) : String := "<DashboardUser " ++ u.name.toText ++ ">"

/-- Whoever is a user has logged in. -/
def isAuthenticated : Bool := true

def isActive : Bool := true

def isAnonymous : Bool := false

end User

end Gatehouse
