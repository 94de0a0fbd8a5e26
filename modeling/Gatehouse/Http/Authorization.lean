import Gatehouse.Fault
import Gatehouse.Text.Base64
import Gatehouse.Text.Blank
import Gatehouse.Text.Cut
import Gatehouse.Text.Utf8

namespace Gatehouse.Authorization

/-- The username ends at the first colon; without a colon the password is empty. -/
def splitPair (cs : List Char) : String × String :=
  let (username, password) := Text.cutAt ':' cs
  (String.ofList username, String.ofList (password.getD []))

/-- The pair that Base64 of UTF-8 stands for. -/
def decodePair? (cs : List Char) : Option (String × String) :=
  match Base64.decode? cs with
  | some bytes => (Utf8.decode? bytes).map splitPair
  | none => none

def isAscii (c : Char) : Bool := c.toNat < 0x80

/-- The pair that a header carries. The scheme ends at the first space, and its case does not
matter. Characters past the first 128 after it are a fault; any other text that stands for no pair
carries none. -/
def basicPair? (header : String) : Except Fault (Option (String × String)) :=
  let (scheme, rest) := Text.cutAt ' ' header.toList
  if scheme.map Char.toLower = "basic".toList then
    let credentials := Text.trim isHeaderBlank (rest.getD [])
    if credentials.all isAscii then .ok (decodePair? credentials) else .error .notAscii
  else .ok none

/-- The header that carries a pair. -/
def basic (username password : String) : String :=
  let pair := username.toList ++ ':' :: password.toList
  "Basic " ++ String.ofList (Base64.encode (Utf8.encode pair))

end Gatehouse.Authorization
