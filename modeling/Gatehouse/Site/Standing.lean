import Gatehouse.Site.Basic

namespace Gatehouse.Site

/-- Whether a host is meant by a trusted name. A point in front of the name stands for all hosts
below it as well. -/
def isMeant (host : List Char) : Value → Except Fault Bool
  | .text s =>
    let (name, below) := match s.toList with
      | '.' :: rest => (rest, true)
      | cs => (cs, false)
    match HostName.encode (Text.cutAt ':' name).1 with
    | .ok name => .ok (host = name || (below && ('.' :: name).isSuffixOf host))
    | .error flaw => .error (.badLocation (.badHost flaw))
  | .bytes _ => .error (.octetsAtEnd TextUse.compared.name)
  | v => .error (.notText .compared v.kind)

/-- The first name that means the host counts. -/
def isAmong (host : List Char) : List Value → Except Fault Bool
  | [] => .ok false
  | name :: rest =>
    match isMeant host name with
    | .ok false => isAmong host rest
    | r => r

/-- The trusted names one by one; a text is one name. -/
def trustedNames : Value → Except Fault (List Value)
  | .text s => .ok [.text s]
  | v =>
    match v.members? with
    | some names => .ok names
    | none => .error (.notSeries v.kind)

/-- Whether the site goes by the host of an address. Without trusted names it goes by any. -/
def goesBy (site : Site) (address : Address) : Except Fault Bool :=
  let trusted := site.settings.trustedHosts
  let host := (Text.cutAt ':' address.knownHost).1
  if !trusted.truthy then .ok true
  else if host.isEmpty then .ok false
  else (trustedNames trusted).bind (isAmong host)

/-- A name with its port, encoded if it can be. -/
def encodedName (host : List Char) : Except Denial String :=
  let (name, port) := Text.cutAt ':' host
  match HostName.encode name with
  | .ok name => .ok (String.ofList (name ++ (port.map (':' :: ·)).getD []))
  | .error _ => .error .badName

/-- What the site calls itself at an address: its own name, or the name that it is asked by. -/
def ownName (site : Site) (address : Address) : Except Fault (Except Denial String) :=
  match site.settings.serverName with
  | .null => .ok (encodedName address.knownHost)
  | .text s => .ok (encodedName (Address.dropPort address.scheme (s.toList.map Letter.small)))
  | .bytes _ =>
    .error <|
      if (Address.impliedPort address.scheme).isEmpty then .octets else .octetsAtEnd "endswith"
  | v => .error (.notText .lowered v.kind)

/-- The name of the site for a request to an address, or why the request is turned away. -/
def standing (site : Site) (address : Address) : Except Fault (Except Denial String) :=
  (site.goesBy address).bind fun known =>
    if known then site.ownName address
    else
      let host := Address.dropPort address.scheme address.host.toList
      .ok (.error (.untrusted (String.ofList host)))

end Gatehouse.Site
