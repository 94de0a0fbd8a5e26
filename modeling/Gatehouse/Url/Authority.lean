import Gatehouse.Text.Letter
import Gatehouse.Url.HostName
import Gatehouse.Url.Ip
import Gatehouse.Url.Percent

namespace Gatehouse

structure Authority where
  username : List Char
  password : List Char
  host : List Char
  /-- The port as it was given. -/
  port : List Char
  deriving DecidableEq, Repr

namespace Authority

/-- What stands in the first brackets. -/
def bracketed (cs : List Char) : List Char :=
  (Text.cutAt ']' ((Text.cutAt '[' cs).2.getD [])).1

/-- An address of a kind to come: the number of the kind, a point, and the address. -/
def isFuture (cs : List Char) : Bool :=
  match Text.cutAt '.' cs with
  | (number, some rest) =>
    !number.isEmpty && !rest.isEmpty && number.all fun c => (Hex.value? c).isSome
  | (_, none) => false

/-- In brackets stands an address of groups, or one of a kind to come. -/
def checkBracketed : List Char → Except LocationFlaw Unit
  | 'v' :: rest => if isFuture rest then .ok () else .error .badFuture
  | cs =>
    if Ip.isV4 cs then .error .bracketedV4
    else if Ip.isV6 cs then .ok ()
    else .error (.notNumeric (String.ofList cs))

/-- Characters that are variants of a slash, a question mark, a number sign, a colon or an at sign,
or of a word with one of them. -/
def hiddenMarks : List Nat :=
  [0x2047, 0x2048, 0x2049, 0x2100, 0x2101, 0x2105, 0x2106, 0x2A74, 0xFE13, 0xFE16, 0xFE55, 0xFE56,
   0xFE5F, 0xFE6B, 0xFF03, 0xFF0F, 0xFF1A, 0xFF1F, 0xFF20]

def checkMarks (cs : List Char) : Except LocationFlaw Unit :=
  if cs.any fun c => hiddenMarks.contains c.toNat then .error (.hiddenMark (String.ofList cs))
  else .ok ()

def check (cs : List Char) : Except LocationFlaw Unit :=
  match cs.contains '[', cs.contains ']' with
  | true, true => (checkBracketed (bracketed cs)).bind fun _ => checkMarks cs
  | false, false => checkMarks cs
  | _, _ => .error .openBracket

/-- The name of a host in small letters. A zone after a percent sign stays as it is. -/
def smallHost (cs : List Char) : List Char :=
  let (name, zone) := Text.cutAt '%' cs
  name.map Letter.small ++ (zone.map ('%' :: ·)).getD []

/-- The host and the port after it. Colons in brackets end no host. -/
def cutPlace (cs : List Char) : List Char × Option (List Char) :=
  match Text.cutAt '[' cs with
  | (_, some inside) =>
    let (host, rest) := Text.cutAt ']' inside
    (host, (Text.cutAt ':' (rest.getD [])).2)
  | (_, none) => Text.cutAt ':' cs

/-- Who asks stands before the last at sign. -/
def read (cs : List Char) : Authority :=
  let (who, place) := Text.cutAtLast '@' cs
  let (username, password) := Text.cutAt ':' (who.getD [])
  let (host, port) := cutPlace place
  ⟨username, password.getD [], smallHost host, port.getD []⟩

/-- The number of the port; zero where there is none. -/
def portNumber (a : Authority) : Except LocationFlaw Nat :=
  if !a.port.all Char.isDigit then .error (.badPort (String.ofList a.port))
  else
    let n := Numeral.natOfDigits a.port
    if n ≤ 65535 then .ok n else .error .portRange

/-- Marks kept in names and passwords. -/
def isKept (c : Char) : Bool := "%!$&'()*+,;=".toList.contains c

def encodeWho (a : Authority) : List Char :=
  if a.username.isEmpty && a.password.isEmpty then []
  else
    let password := Percent.encode isKept a.password
    Percent.encode isKept a.username ++ (if password.isEmpty then [] else ':' :: password) ++ ['@']

/-- A host with colons in it stands in brackets, and a port of zero is left out. -/
def encode (a : Authority) : Except LocationFlaw (List Char) := do
  let host ← (HostName.encode a.host).mapError .badHost
  let port ← a.portNumber
  let host := if host.contains ':' then '[' :: host ++ [']'] else host
  let port := if port = 0 then [] else ':' :: Nat.toDigits 10 port
  return a.encodeWho ++ host ++ port

theorem check_nil : check [] = .ok () := rfl

theorem encode_read_nil : (read []).encode = .ok [] := rfl

example : (read "u:p@Host:080".toList).encode.toOption = some "u:p@host:80".toList := by
  decide +kernel

end Authority

end Gatehouse
