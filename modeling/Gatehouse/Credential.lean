import Gatehouse.Text.Utf8
import Gatehouse.Value.Datum

namespace Gatehouse

/-- A username and a password, each a value of any kind. -/
structure Credential where
  username : Datum
  password : Datum
  deriving Repr

namespace Credential

/-- The left one of two texts, and whether the other has the same octets. The left one is looked at
first. -/
def compareTexts (left right : Datum) : Except Fault (String × Bool) := do
  let l ← left.whole
  let r ← right.whole
  return (l, Utf8.encode l.toList = Utf8.encode r.toList)

/-- Whether two texts have the same octets. -/
def agree (left right : Datum) : Except Fault Bool := (compareTexts left right).map Prod.snd

/-- What comes of comparing: the submitted texts, which have turned out to be whole, and whether they
are the configured ones. -/
structure Comparison where
  username : String
  password : String
  accepted : Bool
  deriving DecidableEq, Repr

/-- Compares a submitted pair of texts with the configured pair. Both fields are always compared. -/
def compareWith (configured submitted : Credential) : Except Fault Comparison := do
  let (username, first) ← compareTexts submitted.username configured.username
  let (password, second) ← compareTexts submitted.password configured.password
  return ⟨username, password, first && second⟩

/-- The username of a submitted pair, if the pair is the configured one. What is submitted as anything
but texts matches nothing. -/
def admitted? (configured submitted : Credential) : Except Fault (Option String) :=
  if submitted.username.isText && submitted.password.isText then
    (configured.compareWith submitted).map fun c => if c.accepted then some c.username else none
  else .ok none

/-- Whether a submitted pair is the configured one. -/
def accepts (configured submitted : Credential) : Except Fault Bool :=
  (configured.admitted? submitted).map Option.isSome

end Credential

end Gatehouse
