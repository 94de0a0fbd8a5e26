import Gatehouse.Proofs.Spending
import Mathlib.Algebra.GroupWithZero.Nat

namespace Gatehouse

/-- The same sending with all of its answer asked for. -/
def Sending.asGet (sending : Sending) : Sending :=
  { sending with message := { sending.message with verb := "GET" } }

namespace Turn

variable (turn : Turn) (site : Site) (client host : String)

/-- The request of the client to the host that the turn was, if it was one. -/
def request? : Option Request :=
  if turn.sending.client = client then
    (turn.sending.message.sentTo site.settings.base turn.sending.address).toOption.filter
      fun request => request.address.cookieHost = host
  else none

/-- Whether the turn was such a request of a given kind. -/
def asks (kind : Request → Prop) [DecidablePred kind] : Bool :=
  (turn.request? site client host).any fun request => kind request

/-- How many blocks with the notice of a logout the turn has shown the client at the host. -/
def blocksShown : Nat :=
  match turn.request? site client host, turn.exchange.result with
  | some _, .ok (some response) => Site.blocksIn (.ok response)
  | _, _ => 0

variable {turn site client host} {request : Request}

theorem request?_eq_some_iff : turn.request? site client host = some request ↔
    turn.IsBy site client host request := by
  unfold request? IsBy
  cases turn.sending.message.sentTo site.settings.base turn.sending.address with
  | error fault => simp [Except.toOption]
  | ok sent =>
    by_cases hc : turn.sending.client = client
    · simp [hc, Except.toOption, Option.filter_eq_some_iff]
    · simp [hc]

theorem blocksShown_of_isBy (hby : turn.IsBy site client host request)
    {result : Except Fault Response} (hr : turn.exchange.result = result.map some) :
    turn.blocksShown site client host = Site.blocksIn result := by
  unfold blocksShown
  rw [request?_eq_some_iff.mpr hby, hr]
  cases result with
  | error fault => rfl
  | ok response => rfl

theorem asks_of_isBy (hby : turn.IsBy site client host request) (kind : Request → Prop)
    [DecidablePred kind] : turn.asks site client host kind = decide (kind request) := by
  rw [asks, request?_eq_some_iff.mpr hby]
  rfl

end Turn

namespace Site

variable {site : Site}

section Usual

variable (h : site.settings.IsUsual) (hexit : site.gate.exit = .text "/login")
include h hexit

/-- The last turn of a client at a host, and what became of the notices in it. -/
theorem fate_of_lastTurn {sent : List Sending} {last : Sending} {client host : String}
    {request : Request} (hby : (site.lastTurn sent last).IsBy site client host request) :
    let result := (site.respond request ((site.browsers sent).getD client .new)).result
    (site.lastTurn sent last).exchange.result = result.map some ∧
      Fate request (site.sessionOf sent client host) result
        (site.sessionOf (sent ++ [last]) client host) := by
  rcases sessionOf_concat h sent last client host with ⟨other, hother, hr, hsession⟩ | ⟨hnot, _⟩
  · obtain rfl := Except.ok.inj (hby.2.1.symm.trans hother.2.1)
    have hfate := fate_of_respond h (isOwn_browsers h sent client)
      (hasOwnNotices_browsers h sent client) (isRooted_of_sentTo h hby.2.1) hexit
    rw [hby.2.2, ← hsession] at hfate
    exact ⟨hr, hfate⟩
  · exact absurd hby (hnot request)

/-- What a turn shows and what waits after it is what waited before, and one more after a logout. -/
theorem waiting_concat (sent : List Sending) (last : Sending) (client host : String) :
    (site.lastTurn sent last).blocksShown site client host +
        (site.sessionOf (sent ++ [last]) client host).waiting =
      (site.sessionOf sent client host).waiting +
        if (site.lastTurn sent last).asks site client host Request.LogsOut then 1 else 0 := by
  cases hr : (site.lastTurn sent last).request? site client host with
  | some request =>
    have hby := Turn.request?_eq_some_iff.mp hr
    obtain ⟨hresult, hfate⟩ := fate_of_lastTurn h hexit hby
    rw [Turn.blocksShown_of_isBy hby hresult, Turn.asks_of_isBy hby, hfate.balance]
    simp
  | none =>
    rcases sessionOf_concat h sent last client host with ⟨request, hby, _⟩ | ⟨_, hsession⟩
    · have hsome : (site.lastTurn sent last).request? site client host = some request :=
        Turn.request?_eq_some_iff.mpr hby
      simp [hsome] at hr
    · rw [hsession, Turn.blocksShown, Turn.asks, hr]
      simp

theorem waiting_of_turns (sent : List Sending) (client host : String) :
    ((site.turns sent).map fun turn => turn.blocksShown site client host).sum +
        (site.sessionOf sent client host).waiting =
      (site.turns sent).countP fun turn => turn.asks site client host Request.LogsOut := by
  induction sent using List.reverseRecOn with
  | nil => rfl
  | append_singleton sent last ih =>
    have hlast := waiting_concat h hexit sent last client host
    rw [lastTurn] at hlast
    rw [turns_concat, List.map_append, List.sum_append, List.countP_append, ← ih,
      List.map_singleton, List.sum_singleton, List.countP_singleton]
    omega

omit h hexit in
theorem sentTo_asGet {message : Message} {base : Address.Base} {address : String}
    {request : Request} (hs : message.sentTo base address = .ok request) :
    Message.sentTo { message with verb := "GET" } base address = .ok request.asGet := by
  obtain ⟨read, hread, hs⟩ := bind_eq_ok_iff.mp hs
  split at hs
  next => simp at hs
  next hline =>
    obtain rfl := Except.ok.inj hs
    exact sentTo_eq_ok hread (Bool.eq_false_iff.mpr hline)

theorem page_of_asGet {sent : List Sending} {last : Sending} {client host : String}
    {request : Request} (hby : (site.lastTurn sent last).IsBy site client host request)
    {status : Nat} {page : Page}
    (hr : (site.lastTurn sent last).exchange.result = .ok (some (.page status page false))) :
    (site.lastTurn sent last.asGet).exchange.result = .ok (some (.page status page true)) := by
  have hget : (site.lastTurn sent last.asGet).IsBy site client host request.asGet :=
    ⟨hby.1, sentTo_asGet hby.2.1, hby.2.2⟩
  obtain ⟨hresult, _⟩ := fate_of_lastTurn h hexit hby
  obtain ⟨hgot, _⟩ := fate_of_lastTurn h hexit hget
  obtain ⟨response, hresponse, hsome⟩ := map_eq_ok_iff.mp (hresult.symm.trans hr)
  obtain rfl := Option.some.inj hsome
  rw [hgot, page_of_head h (isOwn_browsers h sent client) (isRooted_of_sentTo h hby.2.1) hresponse]
  rfl

end Usual

/-- Whatever is sent to a host, in any order, the blocks with the notice of a logout that a client has
been shown there and those that still wait are as many as the client's logouts. A logout sends the
client to the login page; a page shows all notices that waited, and where only its head was asked for
it is the page that would else be sent; nothing else touches the notices. A logout that is asked for in
vain is turned away. -/
theorem notices_of_history {s : Settings} (hu : s.IsUsual) (hs : s.site = .ok site)
    (sent : List Sending) (client host : String) :
    ((site.turns sent).map fun turn => turn.blocksShown site client host).sum +
        (site.sessionOf sent client host).waiting =
      ((site.turns sent).countP fun turn => turn.asks site client host Request.LogsOut) ∧
    ∀ (last : Sending) (request : Request),
      (site.lastTurn sent last).IsBy site client host request →
        (∃ result, (site.lastTurn sent last).exchange.result = result.map some ∧
          Fate request (site.sessionOf sent client host) result
            (site.sessionOf (sent ++ [last]) client host) ∧
          (request.AsksLogout → ¬ request.IsHeard →
            ∃ denial told, result = .ok (.denied denial told) ∧ denial.status = 400)) ∧
        ∀ status page,
          (site.lastTurn sent last).exchange.result = .ok (some (.page status page false)) →
          (site.lastTurn sent last.asGet).exchange.result =
            .ok (some (.page status page true)) := by
  obtain ⟨rfl, _, _, hexit⟩ := site_eq_ok hs
  refine ⟨waiting_of_turns hu hexit sent client host, fun last request hby => ⟨?_, ?_⟩⟩
  · obtain ⟨hresult, hfate⟩ := fate_of_lastTurn hu hexit hby
    exact ⟨_, hresult, hfate, refused_of_not_isHeard hu (isOwn_browsers hu sent client)
      (isRooted_of_sentTo hu hby.2.1)⟩
  · exact fun status page hr => page_of_asGet hu hexit hby hr

/-- Comes without a pair. -/
def leave : Message := { vouched with authorization := none }

/-- Who leaves twice is told so twice by the next page. -/
theorem notices_of_leaver :
    let sent : List Sending := [⟨"visitor", "/logout", leave⟩,
      ⟨"visitor", "/logout", { leave with verb := "POST" }⟩, ⟨"visitor", "/login", leave⟩]
    ((forTests.turns sent).map fun turn => turn.blocksShown forTests "visitor" "localhost").sum =
      2 := by
  intro sent
  obtain ⟨hbalance, _⟩ := notices_of_history isUsual_forTests site_forTests sent "visitor" "localhost"
  have hleft : (forTests.sessionOf sent "visitor" "localhost").waiting = 0 := by decide +kernel
  have hcount : ((forTests.turns sent).countP fun turn =>
      turn.asks forTests "visitor" "localhost" Request.LogsOut) = 2 := by
    decide +kernel
  rw [hleft, hcount, Nat.add_zero] at hbalance
  exact hbalance

/-- Not every request for the logout is one: where a lasting connection is asked for, or the site is
asked by a name that it cannot call itself by, no notice is left. -/
theorem notices_of_refused :
    let lasting : List Sending := [⟨"visitor", "ws://localhost/logout", leave⟩]
    let misnamed : Request := { leave with address := ⟨"http", "1..com", "", "/logout"⟩ }
    ((forTests.turns lasting).map fun turn =>
          turn.blocksShown forTests "visitor" "localhost").sum +
        (forTests.sessionOf lasting "visitor" "localhost").waiting ≠
      ((forTests.turns lasting).countP fun turn =>
        turn.asks forTests "visitor" "localhost" Request.AsksLogout) ∧
    misnamed.AsksLogout ∧
    blocksIn (forTests.respond misnamed .new).result +
        ((forTests.respond misnamed .new).browser.sessionAt "1..com").waiting ≠
      (Browser.new.sessionAt "1..com").waiting + 1 := by
  decide +kernel

end Site

end Gatehouse
