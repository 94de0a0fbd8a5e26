import Gatehouse.Site.Basic
import Gatehouse.Value.Key

namespace Gatehouse

namespace Lifetime

/-- The calendar reaches from the year 1 to the year 9999; these are its days from 2026 on. -/
def daysAhead : Int := 2912442

def daysBehind : Int := 739616

def secondsPerDay : Int := 86400

/-- A time span has less than a milliard of days, forth or back. -/
def checkDays (days : Int) : Except LifetimeFlaw Int :=
  if days < -2147483648 ∨ 2147483647 < days then .error .beyondWord
  else if 999999999 < days.natAbs then .error (.days days)
  else .ok days

/-- The whole days of a time. -/
def days : Value → Except LifetimeFlaw Int
  | .float .undefined => .error .undefined
  | .float (.infinite _) => .error .infinite
  | v =>
    match v.magnitude? with
    | some (.units n) => checkDays (n.fdiv (secondsPerDay * Binary64.one))
    | _ => .error (.notNumber v.kind)

/-- Whether a time can be counted from now on. -/
def check (time : Value) : Except LifetimeFlaw Unit :=
  (days time).bind fun days =>
    if days < -daysBehind ∨ daysAhead < days then .error .beyondCalendar else .ok ()

/-- Whether a time is at least a second back; it is told to a millionth of a second. -/
def isPast (time : Value) : Bool :=
  match time.magnitude? with
  | some (.units n) => n * 10000000 ≤ -9999995 * Binary64.one
  | _ => false

end Lifetime

namespace Site

/-- Whether sessions count at all. -/
def keepsSessions (site : Site) : Except Fault Bool :=
  match site.settings.sessionLifetime with
  | .null => .error .noLifetime
  | time =>
    match Lifetime.days time with
    | .ok _ => .ok (!Lifetime.isPast time)
    | .error flaw => .error (.badLifetime flaw)

/-- A session that outlives the browser needs an end. -/
def checkEnd (site : Site) (session : Session) : Except Fault Unit :=
  if !session.isPermanent then .ok ()
  else match site.settings.sessionLifetime with
    | .null => .error .noLifetimeAhead
    | time => (Lifetime.check time).mapError .badLifetime

/-- Only a whole number stands for the time for which visitors are remembered. -/
def checkTokenLifetime (site : Site) : Except Fault Unit :=
  match site.settings.tokenLifetime with
  | .int n => (Lifetime.check (.int n)).mapError .badLifetime
  | .bool b => (Lifetime.check (.bool b)).mapError .badLifetime
  | v => .error (.notDuration v.toText)

end Site

end Gatehouse
