import Gatehouse.Http.Address
import Gatehouse.Session

namespace Gatehouse

/-- What a cookie carries. Only what the site has signed is more than a text to it. -/
inductive Carried where
  | session (s : Session)
  /-- The token of a visitor who is to be remembered by this text. -/
  | token (visitor : String)
  | text (s : String)

/-- By what a browser tells cookies apart. -/
structure CookieKey where
  host : String
  path : String
  name : String
  deriving DecidableEq, Repr

structure Cookie where
  key : CookieKey
  /-- Whether the hosts below the one of the cookie are shown it too. -/
  shared : Bool
  carried : Carried

namespace Cookie

/-- The host itself, or one below it. -/
def isAtHost (c : Cookie) (host : String) : Bool :=
  host = c.key.host || (c.shared && ('.' :: c.key.host.toList).isSuffixOf host.toList)

/-- A path, or one below it. -/
def covers (own path : List Char) : Bool :=
  match Text.after? own path with
  | some rest => rest.isEmpty || own.getLast? = some '/' || rest.head? = some '/'
  | none => false

def isShownAt (c : Cookie) (address : Address) : Bool :=
  c.isAtHost address.cookieHost && covers c.key.path.toList address.cookiePath.toList

/-- What the first cookie of a name carries. Only a text is a name. -/
def carried? (name : Value) : List Cookie → Option Carried
  | [] => none
  | c :: rest =>
    if Value.sameKey name (.text c.key.name) then some c.carried else carried? name rest

/-- The cookie of a key. -/
def get? (key : CookieKey) : List Cookie → Option Cookie
  | [] => none
  | c :: rest => if c.key = key then some c else get? key rest

/-- A cookie already there keeps its place. -/
def put (c : Cookie) : List Cookie → List Cookie
  | [] => [c]
  | d :: rest => if d.key = c.key then c :: rest else d :: put c rest

def remove (key : CookieKey) (cookies : List Cookie) : List Cookie :=
  cookies.filter fun c => c.key ≠ key

@[simp] theorem get?_put_self (c : Cookie) (cookies : List Cookie) :
    get? c.key (put c cookies) = some c := by
  induction cookies with
  | nil => simp [put, get?]
  | cons d rest ih =>
    by_cases h : d.key = c.key
    · simp [put, get?, h]
    · simp [put, get?, h, ih]

theorem get?_put_of_ne {key : CookieKey} {c : Cookie} (h : key ≠ c.key)
    (cookies : List Cookie) : get? key (put c cookies) = get? key cookies := by
  induction cookies with
  | nil => simp [put, get?, h.symm]
  | cons d rest ih =>
    by_cases hd : d.key = c.key
    · simp [put, get?, hd, h.symm]
    · simp [put, get?, hd, ih]

@[simp] theorem get?_remove_self (key : CookieKey) (cookies : List Cookie) :
    get? key (remove key cookies) = none := by
  induction cookies with
  | nil => rfl
  | cons d rest ih =>
    by_cases h : d.key = key
    · simpa [remove, h] using ih
    · simpa [remove, get?, h] using ih

theorem get?_remove_of_ne {key other : CookieKey} (h : other ≠ key) (cookies : List Cookie) :
    get? other (remove key cookies) = get? other cookies := by
  induction cookies with
  | nil => rfl
  | cons d rest ih =>
    by_cases hd : d.key = key
    · simpa [remove, get?, hd, h.symm] using ih
    · by_cases ho : d.key = other
      · simp [remove, get?, ho, h]
      · simpa [remove, get?, hd, ho] using ih

/-- What a response has a browser do. -/
inductive Order where
  | keep (c : Cookie)
  | drop (key : CookieKey)

namespace Order

def key : Order → CookieKey
  | .keep c => c.key
  | .drop key => key

/-- The cookies after an order. One without a name cannot be carried out. -/
def carryOut (cookies : List Cookie) (order : Order) : Except Fault (List Cookie) :=
  if order.key.name.isEmpty then .error .namelessCookie
  else match order with
    | .keep c => .ok (put c cookies)
    | .drop key => .ok (remove key cookies)

end Order

end Cookie

end Gatehouse
