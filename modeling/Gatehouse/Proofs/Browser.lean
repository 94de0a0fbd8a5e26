import Gatehouse.Proofs.Session.Kept
import Gatehouse.Proofs.Settings
import Gatehouse.Site.Settling

namespace Gatehouse

/-- A rule for cookies of a name that are for one host and all its paths. -/
structure CookieRule.IsForRoot (rule : CookieRule) (name : String) : Prop where
  path : rule.pathText? = .ok (some ['/'])
  domain : rule.domainText? = .ok none
  sameSite : rule.checkSameSite = .ok ()
  named : rule.nameText = .ok name.toList
  isBare : CookieRule.bareName name.toList = name ∧ name.toList.any CookieRule.endsName = false
  oneLine : CookieRule.hasNewline name.toList (rule.attributes none (some ['/'])) = false
  noDomain : CookieRule.textOf? "domain" (rule.attributes none (some ['/'])) = none
  root : CookieRule.textOf? "path" (rule.attributes none (some ['/'])) = some ['/']

instance (rule : CookieRule) (name : String) : Decidable (rule.IsForRoot name) :=
  decidable_of_iff
    (rule.pathText?.toOption = some (some ['/']) ∧ rule.domainText?.toOption = some none ∧
      rule.checkSameSite.toOption = some () ∧ rule.nameText.toOption = some name.toList ∧
      (CookieRule.bareName name.toList = name ∧ name.toList.any CookieRule.endsName = false) ∧
      CookieRule.hasNewline name.toList (rule.attributes none (some ['/'])) = false ∧
      CookieRule.textOf? "domain" (rule.attributes none (some ['/'])) = none ∧
      CookieRule.textOf? "path" (rule.attributes none (some ['/'])) = some ['/'])
    ⟨fun ⟨hpath, hdomain, hsite, hname, hbare, hline, hnone, hroot⟩ =>
      { path := ok_of_toOption hpath
        domain := ok_of_toOption hdomain
        sameSite := ok_of_toOption hsite
        named := ok_of_toOption hname
        isBare := hbare
        oneLine := hline
        noDomain := hnone
        root := hroot },
    fun h => ⟨congrArg Except.toOption h.path, congrArg Except.toOption h.domain,
      congrArg Except.toOption h.sameSite, congrArg Except.toOption h.named, h.isBare, h.oneLine,
      h.noDomain, h.root⟩⟩

theorem CookieRule.IsForRoot.issue {rule : CookieRule} {name : String} (h : rule.IsForRoot name)
    {limit : Value} (hl : checkLimit limit = .ok ()) (address : Address)
    (carried : Option Carried) :
    rule.issue limit address carried = .ok (match carried with
      | some carried => .keep ⟨⟨address.cookieHost, "/", name⟩, false, carried⟩
      | none => .drop ⟨address.cookieHost, "/", name⟩) := by
  rw [CookieRule.issue, h.path, h.domain, h.sameSite, h.named, hl]
  simp only [bind, Except.bind]
  rw [h.oneLine, if_neg Bool.false_ne_true]
  simp only [hostAt, h.noDomain, pathAt, h.root, h.isBare.1, left, h.isBare.2]
  cases carried with
  | some carried => rfl
  | none => rfl

namespace Cookie

/-- The key of the cookie that carries the session at a host. -/
def sessionKey (host : String) : CookieKey := ⟨host, "/", "session"⟩

/-- The key of the cookie that carries the token of a remembered visitor. -/
def tokenKey (host : String) : CookieKey := ⟨host, "/", "remember_token"⟩

/-- A cookie of the site: a session that a cookie can keep, a text in its place that the site has
not signed, or a token. -/
inductive IsUsual : Cookie → Prop
  | session (host : String) {s : Session} (h : s.IsKeyed) :
    IsUsual ⟨sessionKey host, false, .session s⟩
  | forged (host text : String) : IsUsual ⟨sessionKey host, false, .text text⟩
  | token (host visitor : String) : IsUsual ⟨tokenKey host, false, .token visitor⟩

def Order.leave (host : String) (s : Session) : Order :=
  if s.isEmpty then .drop (sessionKey host) else .keep ⟨sessionKey host, false, .session s.kept⟩

/-- The order that leaves a browser with a token, or with none. -/
def Order.entrust (host : String) : Option String → Order
  | some visitor => .keep ⟨tokenKey host, false, .token visitor⟩
  | none => .drop (tokenKey host)

end Cookie

namespace Browser

/-- The session of a browser at a host; an empty one if there is none. -/
def sessionAt (b : Browser) (host : String) : Session :=
  match (Cookie.get? (Cookie.sessionKey host) b.cookies).map Cookie.carried with
  | some (.session s) => s
  | _ => ∅

/-- All cookies are cookies of the site. -/
def IsUsual (b : Browser) : Prop := ∀ c ∈ b.cookies, c.IsUsual

theorem isUsual_new : new.IsUsual := fun _ hc => absurd hc List.not_mem_nil

theorem sessionAt_new (host : String) : new.sessionAt host = ∅ := rfl

end Browser

namespace Cookie

theorem mem_of_get? {key : CookieKey} {c : Cookie} {cookies : List Cookie}
    (h : get? key cookies = some c) : c ∈ cookies ∧ c.key = key := by
  induction cookies with
  | nil => simp [get?] at h
  | cons d rest ih =>
    rw [get?] at h
    split at h
    next hd =>
      obtain rfl := Option.some.inj h
      exact ⟨List.mem_cons_self .., hd⟩
    next => exact ⟨List.mem_cons_of_mem _ (ih h).1, (ih h).2⟩

theorem mem_of_mem_put {c d : Cookie} {cookies : List Cookie} (h : d ∈ put c cookies) :
    d = c ∨ d ∈ cookies := by
  induction cookies with
  | nil => exact Or.inl (List.mem_singleton.mp h)
  | cons e rest ih =>
    rw [put] at h
    split at h
    next =>
      rcases List.mem_cons.mp h with rfl | h
      · exact Or.inl rfl
      · exact Or.inr (List.mem_cons_of_mem _ h)
    next =>
      rcases List.mem_cons.mp h with rfl | h
      · exact Or.inr (List.mem_cons_self ..)
      · exact (ih h).imp id (List.mem_cons_of_mem _)

end Cookie

namespace Browser

variable {b : Browser}

theorem IsUsual.keyed (h : b.IsUsual) (host : String) : (b.sessionAt host).IsKeyed := by
  unfold sessionAt
  cases hg : Cookie.get? (Cookie.sessionKey host) b.cookies with
  | none => exact Session.isKeyed_empty
  | some c =>
    obtain ⟨hmem, hkey⟩ := Cookie.mem_of_get? hg
    cases h c hmem with
    | session _ hs => exact hs
    | forged => exact Session.isKeyed_empty
    | token => exact Session.isKeyed_empty

def after (b : Browser) : Cookie.Order → Browser
  | .keep c => ⟨Cookie.put c b.cookies⟩
  | .drop key => ⟨Cookie.remove key b.cookies⟩

theorem receive_cons {order : Cookie.Order} (h : order.key.name ≠ "")
    (rest : List Cookie.Order) : b.receive (order :: rest) = (b.after order).receive rest := by
  have hname : order.key.name.isEmpty = false := by simpa using h
  cases order with
  | keep c =>
    rw [receive, receiveAll, Cookie.Order.carryOut.eq_def, hname]
    rfl
  | drop key =>
    rw [receive, receiveAll, Cookie.Order.carryOut.eq_def, hname]
    rfl

theorem IsUsual.after_leave (h : b.IsUsual) (host : String) {s : Session} (hs : s.IsKeyed) :
    (b.after (.leave host s)).IsUsual := by
  unfold Cookie.Order.leave
  split
  next => exact fun c hc => h c (List.mem_filter.mp hc).1
  next =>
    intro c hc
    rcases Cookie.mem_of_mem_put hc with rfl | hc
    · exact .session host hs.kept
    · exact h c hc

theorem IsUsual.after_entrust (h : b.IsUsual) (host : String) (visitor : Option String) :
    (b.after (.entrust host visitor)).IsUsual := by
  cases visitor with
  | none => exact fun c hc => h c (List.mem_filter.mp hc).1
  | some visitor =>
    intro c hc
    rcases Cookie.mem_of_mem_put hc with rfl | hc
    · exact .token host visitor
    · exact h c hc

theorem get?_after_of_ne {order : Cookie.Order} {key : CookieKey} (h : key ≠ order.key) :
    Cookie.get? key (b.after order).cookies = Cookie.get? key b.cookies := by
  cases order with
  | keep c => exact Cookie.get?_put_of_ne h _
  | drop key => exact Cookie.get?_remove_of_ne h _

theorem key_leave (host : String) (s : Session) :
    (Cookie.Order.leave host s).key = Cookie.sessionKey host := by
  unfold Cookie.Order.leave
  split <;> rfl

theorem key_entrust (host : String) (visitor : Option String) :
    (Cookie.Order.entrust host visitor).key = Cookie.tokenKey host := by
  cases visitor <;> rfl

theorem sessionAt_after_leave (host : String) (s : Session) :
    (b.after (.leave host s)).sessionAt host = s.kept := by
  unfold Cookie.Order.leave
  split
  next he =>
    have : s = ∅ := by
      obtain ⟨entries⟩ := s
      exact congrArg Session.mk (List.isEmpty_iff.mp he)
    rw [this, Session.kept_empty, sessionAt, after, Cookie.get?_remove_self]
    rfl
  next =>
    have := Cookie.get?_put_self ⟨Cookie.sessionKey host, false, .session s.kept⟩ b.cookies
    rw [sessionAt, after, this]
    rfl

theorem sessionAt_after_leave_of_ne {host other : String} (h : other ≠ host) (s : Session) :
    (b.after (.leave host s)).sessionAt other = b.sessionAt other := by
  have hne : Cookie.sessionKey other ≠ (Cookie.Order.leave host s).key := by
    rw [key_leave]
    intro he
    exact h (CookieKey.mk.inj he).1
  rw [sessionAt, get?_after_of_ne hne]
  rfl

theorem sessionAt_after_entrust (host other : String) (visitor : Option String) :
    (b.after (.entrust host visitor)).sessionAt other = b.sessionAt other := by
  have hne : Cookie.sessionKey other ≠ (Cookie.Order.entrust host visitor).key := by
    rw [key_entrust]
    intro he
    exact absurd (CookieKey.mk.inj he).2.2 (by decide)
  rw [sessionAt, get?_after_of_ne hne]
  rfl

end Browser

end Gatehouse
