import Gatehouse.Proofs.Scope
import Gatehouse.Proofs.Settings

namespace Gatehouse

namespace Site

/-- What one client does, in order. -/
def ownActions (actions : List (String × Action)) (client : String) : List Action :=
  (actions.filter fun a => a.1 = client).map Prod.snd

/-- Of what has come of actions in order, what one client sees: that of its own. -/
def seenBy (client : String) (actions : List (String × Action))
    (exchanges : List (Exchange (Option Response))) : List (Exchange (Option Response)) :=
  ((List.zip actions exchanges).filter fun turn => turn.1.1 = client).map Prod.snd

/-- What comes of actions one after the other in the same browser. -/
def alone (site : Site) : Browser → List Action → List (Exchange (Option Response))
  | _, [] => []
  | browser, action :: rest =>
    site.act browser action :: site.alone (site.act browser action).browser rest

section Own

variable {client : String} {first : String × Action}

theorem ownActions_cons_self (h : first.1 = client) (actions : List (String × Action)) :
    ownActions (first :: actions) client = first.2 :: ownActions actions client := by
  simp [ownActions, h]

theorem ownActions_cons_of_ne (h : first.1 ≠ client) (actions : List (String × Action)) :
    ownActions (first :: actions) client = ownActions actions client := by
  simp [ownActions, h]

theorem ownActions_append (actions more : List (String × Action)) (client : String) :
    ownActions (actions ++ more) client = ownActions actions client ++ ownActions more client := by
  simp [ownActions]

/-- No client can tell in which order two others, or it and another, have acted. -/
theorem ownActions_swap {a b : String × Action} (h : a.1 ≠ b.1) (actions : List (String × Action))
    (client : String) :
    ownActions (a :: b :: actions) client = ownActions (b :: a :: actions) client := by
  by_cases ha : a.1 = client
  · have hb : b.1 ≠ client := fun hb => h (ha.trans hb.symm)
    rw [ownActions_cons_self ha, ownActions_cons_of_ne hb, ownActions_cons_of_ne hb,
      ownActions_cons_self ha]
  · rw [ownActions_cons_of_ne ha]
    by_cases hb : b.1 = client
    · rw [ownActions_cons_self hb, ownActions_cons_self hb, ownActions_cons_of_ne ha]
    · rw [ownActions_cons_of_ne hb, ownActions_cons_of_ne hb, ownActions_cons_of_ne ha]

end Own

variable (site : Site) (browsers : Table Browser) {client : String} {first : String × Action}

theorem getD_step_self (client : String) (action : Action) :
    (site.step browsers client action).2.getD client .new =
      (site.act (browsers.getD client .new) action).browser := by
  rw [step, Table.getD, Table.get?_insert_self]
  rfl

theorem getD_step_of_ne {other : String} (h : client ≠ other) (action : Action) :
    (site.step browsers other action).2.getD client .new = browsers.getD client .new := by
  rw [step, Table.getD, Table.get?_insert_of_ne h]
  rfl

theorem seenBy_run_cons_self (h : first.1 = client) (actions : List (String × Action)) :
    seenBy client (first :: actions) (site.run browsers (first :: actions)) =
      (site.step browsers first.1 first.2).1 ::
        seenBy client actions (site.run (site.step browsers first.1 first.2).2 actions) := by
  simp [seenBy, run, h]

theorem seenBy_run_cons_of_ne (h : first.1 ≠ client) (actions : List (String × Action)) :
    seenBy client (first :: actions) (site.run browsers (first :: actions)) =
      seenBy client actions (site.run (site.step browsers first.1 first.2).2 actions) := by
  simp [seenBy, run, h]

/-- A client sees of a run what it would see with nobody else there. -/
theorem seenBy_run_eq_alone (actions : List (String × Action)) (client : String) :
    seenBy client actions (site.run browsers actions) =
      site.alone (browsers.getD client .new) (ownActions actions client) := by
  induction actions generalizing browsers with
  | nil => rfl
  | cons first actions ih =>
    by_cases h : first.1 = client
    · rw [seenBy_run_cons_self _ _ h, ownActions_cons_self h, ih, h, getD_step_self]
      rfl
    · rw [seenBy_run_cons_of_ne _ _ h, ownActions_cons_of_ne h, ih,
        getD_step_of_ne _ _ (Ne.symm h)]

theorem run_eq_alone (client : String) (actions : List Action) :
    site.run browsers (actions.map fun action => (client, action)) =
      site.alone (browsers.getD client .new) actions := by
  induction actions generalizing browsers with
  | nil => rfl
  | cons action actions ih =>
    have hrest := ih (site.step browsers client action).2
    rw [getD_step_self] at hrest
    exact congrArg (site.act (browsers.getD client .new) action :: ·) hrest

end Site

namespace Server

open Site (Action ownActions seenBy)

theorem server_eq_ok {s : Settings} {server : Server} (h : s.server = .ok server) :
    ∃ site, s.site = .ok site ∧ server = ⟨site, []⟩ := by
  obtain ⟨site, hsite, rfl⟩ := map_eq_ok_iff.mp h
  exact ⟨site, hsite, rfl⟩

/-- All clients share one server, and whatever is done changes it. Still each of them sees exactly what
it sees when its own actions are run against a fresh server with the same settings, whatever browsers
the clients come with: the same results, logs and cookies after each action, faults included. So it sees
the same in every order of all actions that keeps each client's own order, and in particular when two
actions of different clients change places. -/
theorem seenBy_of_run {s : Settings} {server fresh : Server} (hs : s.server = .ok server)
    (hf : s.server = .ok fresh) (browsers : Table Browser) (actions : List (String × Action)) :
    (∀ client, seenBy client actions (server.run browsers actions) =
      fresh.run ((∅ : Table Browser).insert client (browsers.getD client .new))
        ((ownActions actions client).map fun action => (client, action))) ∧
    (∀ others, (∀ client, ownActions others client = ownActions actions client) →
      ∀ client, seenBy client others (server.run browsers others) =
        seenBy client actions (server.run browsers actions)) ∧
    ∀ early a b late, actions = early ++ a :: b :: late → a.1 ≠ b.1 →
      ∀ client, seenBy client (early ++ b :: a :: late)
          (server.run browsers (early ++ b :: a :: late)) =
        seenBy client actions (server.run browsers actions) := by
  obtain ⟨site, _, rfl⟩ := server_eq_ok hs
  obtain rfl : (⟨site, []⟩ : Server) = fresh := Except.ok.inj (hs.symm.trans hf)
  have hreorder : ∀ others, (∀ client, ownActions others client = ownActions actions client) →
      ∀ client, seenBy client others (run ⟨site, []⟩ browsers others) =
        seenBy client actions (run ⟨site, []⟩ browsers actions) := by
    intro others h client
    rw [run_of_closed, run_of_closed, Site.seenBy_run_eq_alone, Site.seenBy_run_eq_alone, h client]
  refine ⟨fun client => ?_, hreorder, ?_⟩
  · have hgiven : ((∅ : Table Browser).insert client (browsers.getD client .new)).getD client .new =
        browsers.getD client .new := by
      rw [Table.getD, Table.get?_insert_self]
      rfl
    rw [run_of_closed, run_of_closed, Site.seenBy_run_eq_alone, Site.run_eq_alone, hgiven]
  · rintro early a b late rfl hne
    refine hreorder _ fun client => ?_
    rw [Site.ownActions_append, Site.ownActions_append, Site.ownActions_swap (Ne.symm hne)]

/-- A visitor with the pair in its header and a guest with a session of its own take turns. -/
theorem seenBy_of_turns :
    let server : Server := ⟨.forTests, []⟩
    let guest : Browser := Browser.new.forged "made up"
    let browsers : Table Browser := ⟨[("guest", guest)]⟩
    let first : Action := .send "/" Site.vouched
    let second : Action := .send "/" { Site.vouched with authorization := none }
    let turns := [("visitor", first), ("guest", second), ("visitor", second)]
    let swapped := [("guest", second), ("visitor", first), ("visitor", second)]
    seenBy "guest" turns (server.run browsers turns) =
        server.run ((∅ : Table Browser).insert "guest" guest) [("guest", second)] ∧
      seenBy "visitor" swapped (server.run browsers swapped) =
        server.run ((∅ : Table Browser).insert "visitor" .new)
          [("visitor", first), ("visitor", second)] := by
  intro server guest browsers first second turns swapped
  have hs : Settings.forTests.server = .ok server := rfl
  obtain ⟨halone, _, hswap⟩ := seenBy_of_run hs hs browsers turns
  have hswapped := hswap [] ("visitor", first) ("guest", second) [("visitor", second)] rfl
    (by decide) "visitor"
  exact ⟨halone "guest", hswapped.trans (halone "visitor")⟩

/-- A scope that stayed open would let the next visitor in as the one before: here one without a session
is shown the page of somebody else. -/
example :
    let stranger : Request :=
      { Site.vouched with authorization := none, address := ⟨"http", Address.ownHost, "", "/"⟩ }
    ((respond ⟨.forTests, [⟨some (some "admin")⟩]⟩ stranger .new).1.result.toOption.map
        Response.status = some 200) ∧
      ((respond ⟨.forTests, []⟩ stranger .new).1.result.toOption.map Response.status = some 302) := by
  decide +kernel

end Server

end Gatehouse
