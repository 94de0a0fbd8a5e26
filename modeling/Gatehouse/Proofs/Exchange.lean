import Gatehouse.Proofs.Location.Rooted
import Gatehouse.Proofs.Record
import Gatehouse.Proofs.Settling
import Gatehouse.Site.Exchange

namespace Gatehouse

open Relation (ReflTransGen)

namespace Cookie

theorem IsUsual.path {c : Cookie} (h : c.IsUsual) : c.key.path = "/" := by
  cases h with
  | session => rfl
  | forged => rfl
  | token => rfl

theorem IsUsual.shared {c : Cookie} (h : c.IsUsual) : c.shared = false := by
  cases h with
  | session => rfl
  | forged => rfl
  | token => rfl

theorem IsUsual.isShownAt {c : Cookie} (h : c.IsUsual) {address : Address}
    (ha : address.IsRooted) :
    c.isShownAt address = true ↔ address.cookieHost = c.key.host := by
  obtain ⟨rest, hrest⟩ := List.head?_eq_some_iff.mp ha.head?_cookiePath
  have hafter : Text.after? "/".toList ('/' :: rest) = some rest :=
    Text.after?_eq_some_iff.mpr (by simp)
  have hcovers : covers c.key.path.toList address.cookiePath.toList = true := by
    rw [h.path, hrest, covers, hafter]
    simp
  simp [Cookie.isShownAt, hcovers, isAtHost, h.shared]

/-- The cookie of a name that a browser shows is the one that it has for the host. -/
theorem carried?_filter {cookies : List Cookie} (h : ∀ c ∈ cookies, c.IsUsual)
    {address : Address} (ha : address.IsRooted) (name : String) :
    carried? (.text name) (cookies.filter fun c => c.isShownAt address) =
      (get? ⟨address.cookieHost, "/", name⟩ cookies).map Cookie.carried := by
  induction cookies with
  | nil => rfl
  | cons c rest ih =>
    have hc := h c (List.mem_cons_self ..)
    have hrest := ih fun d hd => h d (List.mem_cons_of_mem _ hd)
    have hkey : c.key = ⟨address.cookieHost, "/", name⟩ ↔
        c.isShownAt address = true ∧ c.key.name = name := by
      rw [hc.isShownAt ha]
      constructor
      · intro he
        rw [he]
        exact ⟨rfl, rfl⟩
      · rintro ⟨hhost, hname⟩
        rw [hhost, ← hc.path, ← hname]
    rw [get?]
    cases hs : c.isShownAt address with
    | false =>
      rw [List.filter_cons_of_neg (by simp [hs]), if_neg (by simp [hkey, hs]), hrest]
    | true =>
      rw [List.filter_cons, if_pos hs, carried?]
      by_cases hname : c.key.name = name
      · rw [if_pos (by simp [Value.sameKey, hname]), if_pos (hkey.mpr ⟨hs, hname⟩)]
        rfl
      · rw [if_neg (by simpa [Value.sameKey] using fun he => hname he.symm),
          if_neg (fun he => hname (hkey.mp he).2), hrest]

end Cookie

namespace Site

variable {site : Site} {request : Request} {b : Browser}

theorem isRooted_of_sentTo (h : site.settings.IsUsual) {message : Message} {address : String}
    {request : Request} (hs : message.sentTo site.settings.base address = .ok request) :
    request.address.IsRooted := by
  obtain ⟨read, hread, hs⟩ := bind_eq_ok_iff.mp hs
  have hscheme : Url.Parts.isScheme site.settings.base.scheme.toText.toList := by
    have hhttp : site.settings.base.scheme = .text "http" :=
      h.same (fun s => s.base.scheme) fun _ _ _ _ _ => rfl
    rw [hhttp]
    decide +kernel
  split at hs
  next => simp at hs
  next =>
    rw [← Except.ok.inj hs]
    exact Address.isRooted_of_read hscheme hread

theorem opened_of_isUsual (h : site.settings.IsUsual) (hb : b.IsUsual)
    (ha : request.address.IsRooted) :
    site.opened (b.shownAt request.address) = .ok (b.sessionAt request.address.cookieHost) := by
  have hname : site.settings.sessionCookie.name = .text "session" :=
    h.same (fun s => s.sessionCookie.name) fun _ _ _ _ _ => rfl
  have hearlier : site.checkEarlierKeys = .ok () := by
    obtain ⟨key, testing, _, hs⟩ := h.eq_usual
    rw [checkEarlierKeys, hs]
    rfl
  have hcheck : checkKey (.text "session") = .ok () := rfl
  have hcarried := Cookie.carried?_filter hb ha "session"
  rw [opened, signed_of_isUsual h, hearlier, hname, hcheck]
  simp only [Bool.not_true, Bool.false_eq_true, if_false, bind, Except.bind]
  rw [Browser.shownAt, hcarried, Browser.sessionAt, Cookie.sessionKey]
  cases hg : Cookie.get? ⟨request.address.cookieHost, "/", "session"⟩ b.cookies with
  | none => rfl
  | some c =>
    obtain ⟨hmem, hkey⟩ := Cookie.mem_of_get? hg
    cases hb c hmem with
    | session host hs =>
      simp only [Option.map_some, read, keepsSessions_of_isUsual h]
      rfl
    | forged host text =>
      simp only [Option.map_some]
      unfold read
      split
      next => rfl
      next heq => simp at heq
      next => rw [keepsSessions_of_isUsual h]; rfl
    | token host visitor => exact absurd (congrArg CookieKey.name hkey) (by simp [Cookie.tokenKey])

/-- The reply to a browser at a place where the site stands. -/
def replyTo (site : Site) (request : Request) (b : Browser) (standing : Except Denial String) :
    Reply Response :=
  site.answer standing ⟨request, b.shownAt request.address⟩
    (b.sessionAt request.address.cookieHost)

theorem through_replyTo (h : site.settings.IsUsual) (request : Request) (b : Browser)
    (standing : Except Denial String) :
    (site.replyTo request b standing).Through (Session.Change site request)
      (b.sessionAt request.address.cookieHost) :=
  through_answer h standing

theorem isKeyed_replyTo (h : site.settings.IsUsual) (request : Request) (hb : b.IsUsual)
    (standing : Except Denial String) : (site.replyTo request b standing).session.IsKeyed :=
  Session.isKeyed_of_changes (through_replyTo h request b standing).changes (hb.keyed _)

theorem isPlain_replyTo (h : site.settings.IsUsual) (request : Request)
    (hp : (b.sessionAt request.address.cookieHost).IsPlain) (standing : Except Denial String) :
    (site.replyTo request b standing).session.IsPlain :=
  Session.isPlain_of_changes (through_replyTo h request b standing).changes hp

theorem respond_eq_conclude (h : site.settings.IsUsual) (hb : b.IsUsual)
    (ha : request.address.IsRooted) {standing : Except Denial String}
    (hs : site.standing request.address = .ok standing) :
    site.respond request b = site.conclude request b (site.replyTo request b standing) := by
  simp only [respond, hs, opened_of_isUsual h hb ha]
  rfl

theorem send_browser (response : Response) (orders : List Cookie.Order) (log : List Event) :
    (send response orders b log).browser = b ∨
      b.receive orders = .ok (send response orders b log).browser := by
  unfold send
  split
  next => exact Or.inl rfl
  next => exact Or.inl rfl
  next h => exact Or.inr h

/-- A browser is as it was, or has received what came of settling a session. -/
def Settled (site : Site) (address : Address) (before : Browser) (session : Session)
    (after : Browser) : Prop :=
  after = before ∨ ∃ written orders, site.settle address session written = .ok orders ∧
    before.receive orders = .ok after

theorem settled_send {response : Response} {orders : List Cookie.Order} {log : List Event}
    {address : Address} {session : Session} {written : Bool}
    (h : site.settle address session written = .ok orders) :
    site.Settled address b session (send response orders b log).browser := by
  rcases send_browser response orders log with hs | hs
  · exact Or.inl hs
  · exact Or.inr ⟨written, orders, h, hs⟩

theorem settled_afterFault (fault : Fault) (session : Session) (written : Bool)
    (log : List Event) : site.Settled request.address b session
      (site.afterFault request b fault session written log).browser := by
  unfold afterFault
  split
  next => exact Or.inl rfl
  next =>
    dsimp only
    split
    next orders ho => exact settled_send ho
    next => exact Or.inl rfl

/-- What is settled in the end is the session of the reply, perhaps without its order. -/
theorem settled_conclude (request : Request) (b : Browser) (reply : Reply Response) :
    site.Settled request.address b reply.session (site.conclude request b reply).browser ∨
      site.Settled request.address b (reply.session.erase Session.orderKey)
        (site.conclude request b reply).browser := by
  unfold conclude
  split
  next => exact Or.inl (settled_afterFault _ _ _ _)
  next =>
    split
    next orders ho => exact Or.inl (settled_send ho)
    next => exact Or.inr (settled_afterFault _ _ _ _)

theorem becomes_of_settled (h : site.settings.IsUsual) (hb : b.IsUsual) {address : Address}
    {session : Session} (hk : session.IsKeyed) {after : Browser}
    (hs : site.Settled address b session after) : b.Becomes address.cookieHost session after := by
  rcases hs with rfl | ⟨written, orders, ho, hr⟩
  · exact ⟨hb, fun _ _ => rfl, Or.inl rfl⟩
  · obtain ⟨received, hreceived, hleft⟩ := leftWith_of_settle h hk ho hb
    obtain rfl := Except.ok.inj (hreceived.symm.trans hr)
    exact hleft.becomes

/-- An exchange leaves the browser as it was, or with the session of the reply. -/
theorem respond_becomes (h : site.settings.IsUsual) (hb : b.IsUsual)
    (ha : request.address.IsRooted) :
    (site.respond request b).browser = b ∨ ∃ standing,
      site.standing request.address = .ok standing ∧
      b.Becomes request.address.cookieHost (site.replyTo request b standing).session
        (site.respond request b).browser := by
  cases hs : site.standing request.address with
  | error fault => exact Or.inl (by simp [respond, hs])
  | ok standing =>
    refine Or.inr ⟨standing, rfl, ?_⟩
    have hk := isKeyed_replyTo h request hb standing
    rw [respond_eq_conclude h hb ha hs]
    rcases settled_conclude request b (site.replyTo request b standing) with hset | hset
    · exact becomes_of_settled h hb hk hset
    · exact (becomes_of_settled h hb (hk.erase _) hset).of_erase

theorem respond_answered (h : site.settings.IsUsual) (hb : b.IsUsual)
    (ha : request.address.IsRooted) {sent : Response}
    (hr : (site.respond request b).result = .ok sent) (hne : sent ≠ .failed) :
    ∃ standing made, site.standing request.address = .ok standing ∧
      (site.replyTo request b standing).result = .ok made ∧ made.sealed = .ok sent ∧
      b.LeftWith request.address.cookieHost (site.replyTo request b standing).session
        (site.replyTo request b standing).written (site.respond request b).browser := by
  cases hs : site.standing request.address with
  | error fault => simp [respond, hs] at hr
  | ok standing =>
    rw [respond_eq_conclude h hb ha hs] at hr ⊢
    obtain ⟨made, orders, hmade, hsealed, hsettled, hreceived⟩ := conclude_eq_ok hr hne
    have hk := isKeyed_replyTo h request hb standing
    obtain ⟨after, hafter, hleft⟩ := leftWith_of_settle h hk hsettled hb
    obtain rfl := Except.ok.inj (hafter.symm.trans hreceived)
    exact ⟨standing, made, rfl, hmade, hsealed, hleft⟩

end Site

end Gatehouse
