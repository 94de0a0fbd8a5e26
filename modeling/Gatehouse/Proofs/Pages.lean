import Gatehouse.Proofs.Home
import Gatehouse.Proofs.Page.Blocks
import Gatehouse.Proofs.Page.Notices
import Gatehouse.Proofs.Page.Shown

namespace Gatehouse

open Markup (escape unescape)

theorem Response.eq_page_of_sealed {made : Response} {status : Nat} {page : Page} {sent : Bool}
    (h : made.sealed = .ok (.page status page sent)) : made = .page status page sent := by
  unfold sealed at h
  split at h
  next =>
    obtain ⟨_, _, hne⟩ := map_eq_ok_iff.mp h
    cases hne
  next =>
    obtain ⟨_, _, hne⟩ := map_eq_ok_iff.mp h
    cases hne
  next => exact Except.ok.inj h

theorem Page.count_render {c : Char} (h : c ∈ Markup.marks) (p : Page) :
    p.render.toList.count c = ((p.content.blocks.frame p.notices.length).fill []).count c := by
  rw [p.toList_render, Frame.count_fill (Markup.mark_not_mem_escape h)]

namespace Site

variable {site : Site} {request : Request} {b : Browser} {status : Nat} {page : Page} {sent : Bool}

theorem serves_of_respond (h : site.settings.IsUsual) (hb : b.IsUsual)
    (ha : request.address.IsRooted)
    (hr : (site.respond request b).result = .ok (.page status page sent)) :
    site.Serves request (b.sessionAt request.address.cookieHost) status page sent := by
  obtain ⟨standing, made, _, hmade, hsealed, _⟩ := respond_answered h hb ha hr (by simp)
  obtain rfl := Response.eq_page_of_sealed hsealed
  exact serves_of_answer h hmade

theorem not_wantsHead (h : request.method = .get ∨ request.method = .post) :
    request.wantsHead = false := by
  rw [Request.wantsHead, decide_eq_false_iff_not]
  intro hhead
  rw [Request.method, hhead] at h
  exact absurd h (by decide)

theorem root_of_sentTo (h : site.settings.IsUsual) {message : Message} {address : String}
    (hs : message.sentTo site.settings.base address = .ok request)
    (hscheme : (Url.Parts.split address.toList).scheme = [])
    (hauthority : (Url.Parts.split address.toList).authority = []) :
    request.address.root = "" := by
  rw [base_of_isUsual h] at hs
  obtain ⟨read, hread, hs⟩ := bind_eq_ok_iff.mp hs
  split at hs
  next => simp at hs
  next =>
    rw [← Except.ok.inj hs]
    exact Address.root_of_read hread hscheme hauthority

/-- Whatever is asked for, a page is sent as its frame, which depends on its blocks and the number of
its notices alone, with the texts that it shows in the gaps. None of them adds a mark to the markup,
and each can be read again. Requests alone put no text on a page in its notices. Two pages that are
shown to the same session look different wherever they show something different. -/
theorem page_of_respond {s : Settings} (hu : s.IsUsual) (hs : s.site = .ok site) (hb : b.IsUsual)
    {message : Message} {address : String} (hsent : message.sentTo s.base address = .ok request)
    (hmethod : request.method = .get ∨ request.method = .post)
    (hr : (site.respond request b).result = .ok (.page status page sent)) :
    (Response.page status page sent).body? = some page.render ∧
    site.Serves request (b.sessionAt request.address.cookieHost) status page sent ∧
    ((Url.Parts.split address.toList).scheme = [] →
      (Url.Parts.split address.toList).authority = [] → page.root = "") ∧
    ((∃ past client, b = (site.browsers past).getD client .new) ∨
        (b.sessionAt request.address.cookieHost).HasOwnNotices →
      page.notices = List.replicate page.notices.length .ofLogout) ∧
    page.render.toList = (page.content.blocks.frame page.notices.length).fill page.texts ∧
    (∀ text ∈ page.texts, Markup.IsInert (escape text.toList) ∧
      unescape (escape text.toList) = text.toList) ∧
    (∀ c ∈ Markup.marks, page.render.toList.count c =
      ((page.content.blocks.frame page.notices.length).fill []).count c) ∧
    (∀ {other : Request} {more : Message} {place : String} {c : Browser} {status' : Nat}
        {page' : Page} {sent' : Bool}, more.sentTo s.base place = .ok other → c.IsUsual →
      c.sessionAt other.address.cookieHost = b.sessionAt request.address.cookieHost →
      (site.respond other c).result = .ok (.page status' page' sent') →
      page'.content ≠ page.content → page'.render ≠ page.render) := by
  obtain ⟨rfl, _⟩ := site_eq_ok hs
  have hserves := serves_of_respond hu hb (isRooted_of_sentTo hu hsent) hr
  refine ⟨?_, hserves, fun hscheme hauthority => ?_, fun hown => ?_, page.toList_render,
    fun text _ => ?_, fun c hc => page.count_render hc, ?_⟩
  · rw [hserves.sent, not_wantsHead hmethod]
    rfl
  · rw [hserves.root]
    exact root_of_sentTo hu hsent hscheme hauthority
  · have hnotices : (b.sessionAt request.address.cookieHost).HasOwnNotices := by
      rcases hown with ⟨past, client, rfl⟩ | hown
      · exact hasOwnNotices_browsers hu past client _
      · exact hown
    exact List.eq_replicate_iff.mpr ⟨rfl, hnotices.taken hserves.notices⟩
  · exact ⟨Markup.isInert_escape _, Markup.unescape_escape _⟩
  · intro other more place c status' page' sent' hmore hc hsession hother hne heq
    have hserves' := serves_of_respond hu hc (isRooted_of_sentTo hu hmore) hother
    have hnotices := hserves'.notices
    rw [hsession, hserves.notices] at hnotices
    -- One session has one list of notices, so the pages can only differ in their content.
    have hlength := congrArg List.length (Except.ok.inj hnotices).symm
    exact hne (congrArg Page.content (Page.eq_of_render_eq hlength heq))

/-- Asks for the login page with a target that would end the value that it is put in. -/
def breakout : Request :=
  { vouched with
    query := "redirect_to=%22%3E%3Cb%3E"
    authorization := none
    address := home "/login" }

/-- The same, but the target looks like the text that stands for the other one. -/
def lookalike : Request := { breakout with query := "redirect_to=%26%2334%3B%26gt%3B%26lt%3Bb%26gt%3B" }

theorem respond_breakout : (forTests.respond breakout .new).result =
    .ok (.page 200 ⟨"", [], .login none (some "\"><b>") ""⟩ true) :=
  ok_of_toOption (by decide +kernel)

theorem respond_lookalike : (forTests.respond lookalike .new).result =
    .ok (.page 200 ⟨"", [], .login none (some "&#34;&gt;&lt;b&gt;") ""⟩ true) :=
  ok_of_toOption (by decide +kernel)

/-- The page that a new visitor gets has the marks of any such page, and is not the one of another
target that looks like what it holds. -/
theorem page_of_breakout : ∃ page other,
    (forTests.respond breakout .new).result = .ok (.page 200 page true) ∧
    (forTests.respond lookalike .new).result = .ok (.page 200 other true) ∧
    (∀ c ∈ Markup.marks, page.render.toList.count c =
      (((Blocks.login false true).frame 0).fill []).count c) ∧
    other.render ≠ page.render := by
  have hsent : breakout.toMessage.sentTo Settings.forTests.base "/login" = .ok breakout :=
    sentTo_of_read isUsual_forTests read_login rfl
  have hother : lookalike.toMessage.sentTo Settings.forTests.base "/login" = .ok lookalike :=
    sentTo_of_read isUsual_forTests read_login rfl
  obtain ⟨_, _, _, _, _, _, hmarks, hdiffers⟩ := page_of_respond isUsual_forTests site_forTests
    Browser.isUsual_new hsent (Or.inl (by decide)) respond_breakout
  exact ⟨_, _, respond_breakout, respond_lookalike, hmarks,
    hdiffers hother Browser.isUsual_new rfl respond_lookalike (by decide)⟩

end Site

end Gatehouse
