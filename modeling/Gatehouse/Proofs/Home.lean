import Gatehouse.Proofs.Stranger
import Gatehouse.Site.Run

namespace Gatehouse

namespace Site

variable {site : Site} {b : Browser} {request : Request}

/-- An address on the site where no host is named. -/
def home (path : String) : Address := ⟨"http", Address.ownHost, "", path⟩

theorem isRooted_of_home {path : String} (ha : request.address = home path) :
    request.address.IsRooted := by
  rw [ha]
  exact Or.inl rfl

theorem standing_of_isUsual (h : site.settings.IsUsual) (address : Address) :
    site.standing address = .ok (encodedName address.knownHost) := by
  obtain ⟨key, testing, _, hs⟩ := h.eq_usual
  have hgoes : site.goesBy address = .ok true := by
    rw [goesBy, hs]
    rfl
  rw [standing, hgoes]
  change site.ownName address = _
  rw [ownName, hs]
  rfl

theorem standing_home (h : site.settings.IsUsual) (path : String) :
    site.standing (home path) = .ok (.ok "localhost") := by
  rw [standing_of_isUsual h]
  have hname : encodedName (home "/").knownHost = .ok "localhost" :=
    ok_of_toOption (by decide +kernel)
  exact congrArg _ hname

theorem cookieHost_home (path : String) : (home path).cookieHost = Address.ownHost := by
  have : (home "/").cookieHost = Address.ownHost := by decide +kernel
  exact this

theorem standing_of_home (h : site.settings.IsUsual) {path : String}
    (ha : request.address = home path) : site.standing request.address = .ok (.ok "localhost") := by
  rw [ha, standing_home h]

theorem cookieHost_of_home {path : String} (ha : request.address = home path) :
    request.address.cookieHost = Address.ownHost := by
  rw [ha, cookieHost_home]

theorem visitor_of_tokenless (h : site.settings.IsUsual) (hb : b.IsUsual)
    (htoken : b.heeded? Address.ownHost = none) {path : String} (ha : request.address = home path)
    {origin : String} (ho : request.origin = .text origin) :
    site.visitor ⟨request, b.shownAt request.address⟩ (b.sessionAt Address.ownHost) =
      site.identify request (b.sessionAt Address.ownHost) := by
  obtain ⟨mark, hmark⟩ := mark_of_origin ho
  have hvisitor := visitor_of_unheeded h hb (isRooted_of_home ha)
    (by rwa [cookieHost_of_home ha]) hmark
  rwa [cookieHost_of_home ha] at hvisitor

/-- An answer is sent at home too if the order in its session can be carried out. -/
theorem respond_home (h : site.settings.IsUsual) (hb : b.IsUsual) {path : String}
    (ha : request.address = home path) {made sent : Response}
    (hmade : (site.replyTo request b (.ok "localhost")).result = .ok made)
    (hsealed : made.sealed = .ok sent)
    (ho : ∀ order,
      (site.replyTo request b (.ok "localhost")).session.get? Session.orderKey = some order →
        ∃ orders, site.remember request.address
          (site.replyTo request b (.ok "localhost")).session order = .ok orders) :
    (site.respond request b).result = .ok sent ∧
      b.LeftWith Address.ownHost (site.replyTo request b (.ok "localhost")).session
        (site.replyTo request b (.ok "localhost")).written (site.respond request b).browser := by
  have hanswered := respond_of_remember h hb (isRooted_of_home ha) (standing_of_home h ha) hmade
    hsealed ho
  rwa [cookieHost_of_home ha] at hanswered

theorem deliver_eq_respond (h : site.settings.IsUsual) {path : String}
    (hp : Address.read ⟨.text "http", .null, .text "/"⟩ path = .ok (home path))
    {message : Message} (hline : message.headerText.any Location.isNewline = false)
    (b : Browser) :
    site.deliver b path message = site.respond { message with address := home path } b := by
  rw [deliver, sentTo_of_read h hp hline]

theorem isStranger_atHome (hb : b.IsStranger Address.ownHost) {path : String}
    (ha : request.address = home path) : b.IsStranger request.address.cookieHost := by
  rwa [cookieHost_of_home ha]

theorem respond_stranger (h : site.settings.IsUsual) (hb : b.IsStranger Address.ownHost)
    {path : String} (ha : request.address = home path) {sent : Response} (hne : sent ≠ .failed) :
    (site.respond request b).result = .ok sent ↔
      ∃ made, (site.replyTo request b (.ok "localhost")).result = .ok made ∧
        made.sealed = .ok sent :=
  respond_eq_ok_iff h hb.usual (isRooted_of_home ha) (isStranger_atHome hb ha).plain
    (standing_of_home h ha) hne

theorem asked_of_isUsual (h : site.settings.IsUsual) (request : Request) :
    site.asked request = ⟨request.method, request.address.isLasting, true⟩ := by
  obtain ⟨key, testing, _, hs⟩ := h.eq_usual
  rw [asked, hs]
  rfl

theorem route_of_home (h : site.settings.IsUsual) {path : String}
    (ha : request.address = home path) :
    Route.of (site.asked request) request.path = Route.of ⟨request.method, false, true⟩ path := by
  rw [asked_of_isUsual h, Request.path, ha]
  rfl

/-- A stranger who does not send the login form, and no pair, is a stranger afterwards. -/
theorem route_submission :
    Route.of ⟨.ofName "POST", false, true⟩ "/login" = .endpoint .submitLogin := by
  decide +kernel

theorem isStranger_step (h : site.settings.IsUsual) (request : Request)
    (hb : b.IsStranger Address.ownHost) {path : String} (ha : request.address = home path)
    (hauth : request.authorization = none)
    (hroute : Route.of (site.asked request) request.path ≠ .endpoint .submitLogin) :
    (site.respond request b).browser.IsStranger Address.ownHost := by
  have hafter := isStranger_of_respond h (isStranger_atHome hb ha) (isRooted_of_home ha)
    (not_carries hauth hroute)
  rwa [cookieHost_of_home ha] at hafter

end Site

end Gatehouse
