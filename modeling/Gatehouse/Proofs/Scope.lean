import Gatehouse.Proofs.Reply
import Gatehouse.Site.Server

namespace Gatehouse

namespace Work

variable {α β : Type}

/-- In an open scope some work gives a reply. It may change what the scope knows, but nothing else that
the server keeps. -/
def Replies (work : Work α) (site : Site) (scope : Scope) (session : Session) (reply : Reply α) :
    Prop :=
  ∃ after, work session ⟨site, [scope]⟩ = (reply, ⟨site, [after]⟩)

variable {site : Site} {scope : Scope} {session : Session}

theorem replies_plain (f : Site → Session → Reply α) (site : Site) (scope : Scope)
    (session : Session) : (plain f).Replies site scope session (f site session) :=
  ⟨scope, rfl⟩

/-- What comes second works in the scope that the first has left. -/
theorem replies_andThen {work : Work α} {next : α → Work β} {f : α → Session → Reply β}
    {reply : Reply α} {between : Scope}
    (h : work session ⟨site, [scope]⟩ = (reply, ⟨site, [between]⟩))
    (hnext : ∀ a, reply.result = .ok a →
      (next a).Replies site between reply.session (f a reply.session)) :
    (work.andThen next).Replies site scope session (reply.andThen f) := by
  unfold Replies andThen
  rw [h]
  cases hr : reply.result with
  | error fault =>
    rw [Reply.andThen_of_error hr]
    exact ⟨between, by simp only [hr]⟩
  | ok a =>
    obtain ⟨after, hmore⟩ := hnext a hr
    rw [Reply.andThen_of_ok hr]
    exact ⟨after, by simp only [hr, hmore]⟩

end Work

namespace Server

variable {site : Site} {session : Session}

/-- Where it is known who the visitor is, neither the session nor the request is asked. -/
theorem visitor_of_known (visit : Visit) (session : Session) (site : Site) (who : Option String)
    (rest : List Scope) :
    visitor visit session ⟨site, ⟨some who⟩ :: rest⟩ =
      (.same (.ok who) session, ⟨site, ⟨some who⟩ :: rest⟩) := rfl

/-- In a new scope it is found out, and the scope knows it from then on. -/
theorem visitor_of_new (visit : Visit) (session : Session) (site : Site) : ∃ scope,
    visitor visit session ⟨site, [⟨none⟩]⟩ = (site.visitor visit session, ⟨site, [scope]⟩) ∧
      ∀ who, (site.visitor visit session).result = .ok who → scope = ⟨some who⟩ := by
  unfold visitor
  cases hr : (site.visitor visit session).result with
  | error fault => exact ⟨⟨none⟩, by simp only [hr], nofun⟩
  | ok who =>
    refine ⟨⟨some who⟩, by simp only [hr, List.tail_cons], fun other hother => ?_⟩
    rw [Except.ok.inj hother]

/-- A page is shown once it is known who the visitor is, however it came to be known. -/
theorem showPage_of_visitor {visit : Visit} {scope between : Scope} {reply : Reply (Option String)}
    (h : visitor visit session ⟨site, [scope]⟩ = (reply, ⟨site, [between]⟩)) (status : Nat)
    (content : Content) :
    (showPage visit status content).Replies site scope session
      (reply.andThen fun _ session => Site.showPage visit.request session status content) :=
  Work.replies_andThen h fun _ _ => Work.replies_plain
    (fun _ session => Site.showPage visit.request session status content) site between reply.session

/-- A visitor who is known already makes no difference to the page. -/
theorem showPage_of_known (visit : Visit) (status : Nat) (content : Content) (who : Option String) :
    (showPage visit status content).Replies site ⟨some who⟩ session
      (Site.showPage visit.request session status content) := by
  have hreplies := showPage_of_visitor (visitor_of_known visit session site who []) status content
  rw [Reply.andThen_of_ok rfl] at hreplies
  exact hreplies

theorem showLoginPage_of_new (visit : Visit) (status : Nat) (view : FormView) :
    (showLoginPage visit status view).Replies site ⟨none⟩ session
      (site.showLoginPage visit session status view) := by
  obtain ⟨scope, hvisitor, _⟩ := visitor_of_new visit session site
  exact showPage_of_visitor hvisitor status (Site.loginContent view)

/-- The dashboard asks twice who the visitor is, and the second time it is known. -/
theorem dashboard_of_new (visit : Visit) (session : Session) :
    (dashboard visit).Replies site ⟨none⟩ session (site.dashboard visit session) := by
  obtain ⟨scope, hvisitor, hknown⟩ := visitor_of_new visit session site
  refine Work.replies_andThen hvisitor fun who hwho => ?_
  obtain rfl := hknown who hwho
  cases who with
  | some username => exact showPage_of_known visit 200 (.dashboard username) _
  | none => exact Work.replies_plain _ site _ _

theorem afterLogin_of_new (visit : Visit) (outcome : Outcome) (session : Session) :
    (afterLogin visit outcome).Replies site ⟨none⟩ session
      (site.afterLogin visit outcome session) := by
  cases outcome with
  | shown view => exact showLoginPage_of_new visit _ view
  | refused why view => exact showLoginPage_of_new visit _ view
  | admitted location => cases location <;> exact ⟨_, rfl⟩
  | dismissed location => cases location <;> exact ⟨_, rfl⟩

theorem submitLogin_of_new (visit : Visit) (session : Session) :
    (submitLogin visit).Replies site ⟨none⟩ session (site.submitLogin visit session) := by
  unfold Work.Replies submitLogin Site.submitLogin
  dsimp only
  cases site.tooLong visit.request with
  | error fault => exact ⟨_, rfl⟩
  | ok isTooLong =>
    cases isTooLong with
    | true => exact ⟨_, rfl⟩
    | false =>
      cases visit.request.payload with
      | error fault => exact ⟨_, rfl⟩
      | ok payload =>
        have hlogin : logIn visit.request payload session ⟨site, [⟨none⟩]⟩ =
            (site.permit session (site.gate.login session payload
              (Value.ofText? visit.request.target?) visit.request.origin), ⟨site, [⟨none⟩]⟩) := rfl
        exact Work.replies_andThen hlogin fun outcome _ => afterLogin_of_new visit outcome _

theorem answerAs_of_new (name : String) (visit : Visit) (session : Session) :
    (answerAs name visit).Replies site ⟨none⟩ session (site.answerAs name visit session) := by
  unfold Work.Replies answerAs Site.answerAs
  dsimp only
  cases Route.of (site.asked visit.request) visit.request.path with
  | endpoint endpoint =>
    cases endpoint with
    | dashboard => exact dashboard_of_new visit session
    | loginForm => exact showLoginPage_of_new visit _ _
    | submitLogin => exact submitLogin_of_new visit session
    | logout => exact ⟨_, rfl⟩
  | _ => exact ⟨_, rfl⟩

theorem answer_of_new (standing : Except Denial String) (visit : Visit) (session : Session) :
    (answer standing visit).Replies site ⟨none⟩ session (site.answer standing visit session) := by
  cases standing with
  | ok name => exact answerAs_of_new name visit session
  | error denial => exact ⟨_, rfl⟩

/-- A request that finds no scope open is answered by the site alone, and leaves none open. -/
theorem respond_of_closed (site : Site) (request : Request) (browser : Browser) :
    respond ⟨site, []⟩ request browser = (site.respond request browser, ⟨site, []⟩) := by
  unfold respond Site.respond
  dsimp only
  cases site.standing request.address with
  | error fault => rfl
  | ok standing =>
    cases hopened : site.opened (browser.shownAt request.address) with
    | error fault => simp only [enter, leave, hopened, List.tail_cons]
    | ok session =>
      obtain ⟨scope, hanswer⟩ :=
        @answer_of_new site standing ⟨request, browser.shownAt request.address⟩ session
      simp only [enter, leave, hopened, hanswer, List.tail_cons]

theorem act_of_closed (site : Site) (browser : Browser) (action : Site.Action) :
    act ⟨site, []⟩ browser action = (site.act browser action, ⟨site, []⟩) := by
  cases action with
  | send address message =>
    cases hsent : message.sentTo site.settings.base address with
    | error fault => simp only [act, Site.act, Site.deliver, hsent, Except.map]
    | ok request => simp only [act, Site.act, Site.deliver, hsent, respond_of_closed]
  | putSession session => rfl
  | forgeSession text => rfl

/-- So nothing that one client does can be met with by another. -/
theorem run_of_closed (site : Site) (browsers : Table Browser)
    (actions : List (String × Site.Action)) :
    run ⟨site, []⟩ browsers actions = site.run browsers actions := by
  induction actions generalizing browsers with
  | nil => rfl
  | cons first actions ih =>
    obtain ⟨client, action⟩ := first
    simp only [run, act_of_closed, ih, Site.run, Site.step]

end Server

end Gatehouse
