import Gatehouse.Site.Exchange
import Gatehouse.Table

namespace Gatehouse.Site

/-- What a visitor does: send a message to an address, come back with another session, or with a
text in its place that nobody signed. -/
inductive Action where
  | send (address : String) (message : Message)
  | putSession (session : Session)
  | forgeSession (text : String)

/-- A message that cannot be sent changes nothing. -/
def deliver (site : Site) (browser : Browser) (address : String) (message : Message) :
    Exchange Response :=
  match message.sentTo site.settings.base address with
  | .ok request => site.respond request browser
  | .error fault => ⟨.error fault, browser, []⟩

/-- A browser with another session, as the site would have stored it after a request to its root. -/
def replaced (site : Site) (session : Session) (browser : Browser) : Except Fault Browser := do
  let address ← Address.read site.settings.base "/"
  let standing ← site.standing address
  let _ ← site.opened (browser.shownAt address)
  if !site.signed then .error .noSession
  else
    let orders ← site.save address session true
    match standing with
    | .error denial => .error (.denied denial)
    | .ok _ => browser.receive orders

def act (site : Site) (browser : Browser) : Action → Exchange (Option Response)
  | .send address message =>
    let exchange := site.deliver browser address message
    ⟨exchange.result.map some, exchange.browser, exchange.log⟩
  | .putSession session =>
    match site.replaced session browser with
    | .ok browser => ⟨.ok none, browser, []⟩
    | .error fault => ⟨.error fault, browser, []⟩
  | .forgeSession text => ⟨.ok none, browser.forged text, []⟩

def step (site : Site) (browsers : Table Browser) (client : String) (action : Action) :
    Exchange (Option Response) × Table Browser :=
  let exchange := site.act (browsers.getD client .new) action
  (exchange, browsers.insert client exchange.browser)

/-- What comes of the actions of several clients in order. -/
def run (site : Site) : Table Browser → List (String × Action) → List (Exchange (Option Response))
  | _, [] => []
  | browsers, (client, action) :: rest =>
    let (exchange, browsers) := site.step browsers client action
    exchange :: site.run browsers rest

end Gatehouse.Site
