import Gatehouse.Proofs.Page.Frame

namespace Gatehouse

/-- Which blocks a page has: a login form with an error or without, and with a target to be sent
along or without, or the dashboard. -/
inductive Blocks where
  | login (faulty targeted : Bool)
  | dashboard
  deriving DecidableEq, Repr

def Content.blocks : Content → Blocks
  | .login error target _ => .login error.isSome target.isSome
  | .dashboard _ => .dashboard

/-- The texts in the content of a page of a site that stands under some path, in order. -/
def Content.texts (root : String) : Content → List String
  | .login error target username =>
    error.toList ++ (root ++ Endpoint.loginForm.path) :: target.toList ++ [username]
  | .dashboard username => [username, root ++ Endpoint.logout.path]

def Notice.texts (n : Notice) : List String := [n.style, n.message]

def Page.texts (p : Page) : List String := p.notices.flatMap Notice.texts ++ p.content.texts p.root

namespace Blocks

/-- Content with blocks that are left blank. -/
def blank : Blocks → Content
  | .login faulty targeted =>
    .login (if faulty then some "" else none) (if targeted then some "" else none) ""
  | .dashboard => .dashboard ""

/-- The frame of a page with some blocks and a number of notices. -/
def frame (blocks : Blocks) (notices : Nat) : Frame :=
  Segment.frame (Page.segments ⟨"", List.replicate notices ⟨"", ""⟩, blocks.blank⟩)

end Blocks

namespace Page

theorem frame_notices (notices : List Notice) :
    Segment.frame (notices.flatMap Notice.segments) =
      Segment.frame ((List.replicate notices.length ⟨"", ""⟩).flatMap Notice.segments) := by
  induction notices with
  | nil => rfl
  | cons notice notices ih =>
    rw [List.length_cons, List.replicate_succ, List.flatMap_cons, List.flatMap_cons,
      Segment.frame_append, Segment.frame_append, ih]
    rfl

theorem frame_content (content : Content) (root : String) :
    Segment.frame (content.segments root) = Segment.frame (content.blocks.blank.segments "") := by
  cases content with
  | login error target username => cases error <;> cases target <;> rfl
  | dashboard username => rfl

theorem title_blank (content : Content) : content.blocks.blank.title = content.title := by
  cases content with
  | login => rfl
  | dashboard => rfl

theorem frame_segments (p : Page) :
    Segment.frame p.segments = p.content.blocks.frame p.notices.length := by
  simp only [Blocks.frame, segments, Segment.frame_append, frame_notices p.notices,
    frame_content p.content p.root, title_blank]

theorem text_segments (p : Page) : p.segments.filterMap Segment.text? = p.texts := by
  have hnotices : (p.notices.flatMap Notice.segments).filterMap Segment.text? =
      p.notices.flatMap Notice.texts := by
    induction p.notices with
    | nil => rfl
    | cons notice notices ih =>
      rw [List.flatMap_cons, List.filterMap_append, ih]
      rfl
  have hcontent : (p.content.segments p.root).filterMap Segment.text? = p.content.texts p.root := by
    cases p.content with
    | login error target username => cases error <;> cases target <;> rfl
    | dashboard username => rfl
  have hmarkup : ∀ s : String, [Segment.markup s].filterMap Segment.text? = [] := fun _ => rfl
  have hhead : [Segment.markup headMarkup, .markup p.content.title, .markup bodyMarkup].filterMap
      Segment.text? = [] := rfl
  simp only [segments, List.filterMap_append, hnotices, hcontent, hmarkup, hhead, texts,
    List.nil_append, List.append_nil]

/-- A page is its frame with its texts in it. -/
theorem toList_render (p : Page) :
    p.render.toList = (p.content.blocks.frame p.notices.length).fill p.texts := by
  rw [render, String.toList_ofList, Segment.render_eq_fill, frame_segments, text_segments]

theorem length_texts (p : Page) :
    p.texts.length = (p.content.blocks.frame p.notices.length).count none := by
  rw [← text_segments, ← frame_segments, Segment.count_frame]

end Page

namespace Blocks

theorem isClosed_notices (notices : List Notice) :
    (Segment.frame (notices.flatMap Notice.segments)).IsClosed := by
  induction notices with
  | nil => trivial
  | cons notice notices ih =>
    rw [List.flatMap_cons, Segment.frame_append]
    refine Frame.IsClosed.append ?_ ih
    exact ⟨⟨_, _, rfl, by decide⟩, ⟨_, _, rfl, by decide⟩, trivial⟩

theorem isClosed_content (content : Content) (root : String) :
    (Segment.frame (content.segments root)).IsClosed := by
  cases content with
  | login error target username =>
    have hline : Markup.EndsText "\" autocomplete=\"username\" required>\n" := ⟨_, _, rfl, by decide⟩
    have hpassword : Markup.EndsText Content.passwordMarkup :=
      ((((hline.append _).append _).append _).append _).append _
    cases error with
    | none =>
      cases target with
      | none => exact ⟨⟨_, _, rfl, by decide⟩, hpassword, trivial⟩
      | some target => exact ⟨⟨_, _, rfl, by decide⟩, ⟨_, _, rfl, by decide⟩, hpassword, trivial⟩
    | some error =>
      refine ⟨⟨_, _, rfl, by decide⟩, ?_⟩
      cases target with
      | none => exact ⟨⟨_, _, rfl, by decide⟩, hpassword, trivial⟩
      | some target => exact ⟨⟨_, _, rfl, by decide⟩, ⟨_, _, rfl, by decide⟩, hpassword, trivial⟩
  | dashboard username => exact ⟨⟨_, _, rfl, by decide⟩, ⟨_, _, rfl, by decide⟩, trivial⟩

theorem isClosed_frame (blocks : Blocks) (notices : Nat) : (blocks.frame notices).IsClosed := by
  simp only [frame, Page.segments, Segment.frame_append]
  refine (((Frame.IsClosed.append ?_ (isClosed_notices _)).append ?_).append
    (isClosed_content _ _)).append ?_
  · trivial
  · trivial
  · trivial

theorem count_error (faulty : Bool) :
    ((Segment.frame (Content.errorSegments (if faulty then some "" else none))).fill []).count '<' =
      2 * faulty.toNat := by
  cases faulty with
  | false => rfl
  | true => decide +kernel

theorem count_target (targeted : Bool) :
    ((Segment.frame (Content.targetSegments (if targeted then some "" else none))).fill []).count
      '<' = targeted.toNat := by
  cases targeted with
  | false => rfl
  | true => decide +kernel

/-- The title tells a login form from the dashboard. -/
theorem fill_login_ne (faulty targeted : Bool) (notices : Nat) (texts others : List String) :
    ((login faulty targeted).frame notices).fill texts ≠ (dashboard.frame notices).fill others := by
  intro h
  have htitle : "Sign in".toList ++ _ = "Dashboard".toList ++ _ := List.append_cancel_left h
  have hhead := congrArg List.head? htitle
  have hlogin : "Sign in".toList.head? = some 'S' := by decide
  have hdashboard : "Dashboard".toList.head? = some 'D' := by decide
  rw [List.head?_append, List.head?_append, hlogin, hdashboard] at hhead
  simp at hhead

/-- Login forms with different blocks have different numbers of tags. -/
theorem eq_of_count_login {faulty targeted faulty' targeted' : Bool} {notices : Nat}
    (h : (((login faulty targeted).frame notices).fill []).count '<' =
      (((login faulty' targeted').frame notices).fill []).count '<') :
    faulty = faulty' ∧ targeted = targeted' := by
  simp only [frame, Page.segments, blank, Content.segments, Content.title, Segment.frame_append,
    Frame.fill_append_nil, List.count_append, count_error, count_target] at h
  -- An error brings two tags and a target one, so the sum tells which of them are there.
  have hsum : 2 * faulty.toNat + targeted.toNat = 2 * faulty'.toNat + targeted'.toNat := by omega
  have hbools : ∀ f t f' t' : Bool, 2 * f.toNat + t.toNat = 2 * f'.toNat + t'.toNat →
      f = f' ∧ t = t' := by decide
  exact hbools _ _ _ _ hsum

end Blocks

namespace Page

theorem length_noticeTexts (notices : List Notice) :
    (notices.flatMap Notice.texts).length = 2 * notices.length := by
  induction notices with
  | nil => rfl
  | cons notice notices ih =>
    rw [List.flatMap_cons, List.length_append, ih, List.length_cons]
    simp only [Notice.texts, List.length_cons, List.length_nil]
    omega

theorem notices_eq_of_texts {notices others : List Notice}
    (h : notices.flatMap Notice.texts = others.flatMap Notice.texts) : notices = others := by
  induction notices generalizing others with
  | nil =>
    cases others with
    | nil => rfl
    | cons other others => cases h
  | cons notice notices ih =>
    cases others with
    | nil => cases h
    | cons other others =>
      obtain ⟨style, message⟩ := notice
      obtain ⟨style', message'⟩ := other
      simp only [List.flatMap_cons, Notice.texts, List.cons_append, List.nil_append,
        List.cons.injEq] at h
      obtain ⟨rfl, rfl, hrest⟩ := h
      rw [ih hrest]

theorem content_eq_of_texts {content other : Content} {root elsewhere : String}
    (hb : content.blocks = other.blocks) (h : content.texts root = other.texts elsewhere) :
    content = other ∧ root = elsewhere := by
  have hroot : ∀ path : String, root ++ path = elsewhere ++ path → root = elsewhere := by
    intro path hpath
    apply String.toList_injective
    have hlist := congrArg String.toList hpath
    rw [String.toList_append, String.toList_append] at hlist
    exact List.append_cancel_right hlist
  cases content with
  | login error target username =>
    cases other with
    | login error' target' username' =>
      simp only [Content.blocks, Blocks.login.injEq] at hb
      have herrors : error.toList.length = error'.toList.length := by
        rw [Option.length_toList, Option.length_toList, hb.1]
      obtain ⟨hhead, husername⟩ := List.append_inj' h rfl
      obtain ⟨herror, hrest⟩ := List.append_inj hhead herrors
      obtain ⟨hpath, htarget⟩ := List.cons.inj hrest
      have hname := (List.cons.inj husername).1
      have hinj : ∀ {o o' : Option String}, o.toList = o'.toList → o = o' := by
        intro o o' ho
        rw [← o.head?_toList, ho, o'.head?_toList]
      rw [hinj herror, hinj htarget, hname]
      exact ⟨rfl, hroot _ hpath⟩
    | dashboard => simp [Content.blocks] at hb
  | dashboard username =>
    cases other with
    | login => simp [Content.blocks] at hb
    | dashboard username' =>
      simp only [Content.texts, List.cons.injEq, and_true] at h
      exact ⟨by rw [h.1], hroot _ h.2⟩

theorem blocks_eq_of_fill {blocks others : Blocks} {notices : Nat} {texts more : List String}
    (h : (blocks.frame notices).fill texts = (others.frame notices).fill more) :
    blocks = others := by
  cases blocks with
  | login faulty targeted =>
    cases others with
    | login faulty' targeted' =>
      have hcount := congrArg (List.count '<') h
      have hmark : '<' ∈ Markup.marks := by decide
      have hangle : ∀ text, '<' ∉ Markup.escape text := Markup.mark_not_mem_escape hmark
      rw [Frame.count_fill hangle _ texts, Frame.count_fill hangle _ more] at hcount
      obtain ⟨rfl, rfl⟩ := Blocks.eq_of_count_login hcount
      rfl
    | dashboard => exact absurd h (Blocks.fill_login_ne _ _ _ _ _)
  | dashboard =>
    cases others with
    | login => exact absurd h.symm (Blocks.fill_login_ne _ _ _ _ _)
    | dashboard => rfl

/-- Two pages with as many notices are the same if they look the same. -/
theorem eq_of_render_eq {p q : Page} (hn : p.notices.length = q.notices.length)
    (h : p.render = q.render) : p = q := by
  have hfill := congrArg String.toList h
  rw [toList_render, toList_render, ← hn] at hfill
  have hblocks := blocks_eq_of_fill hfill
  rw [← hblocks] at hfill
  have htexts := Frame.fill_injective (Blocks.isClosed_frame _ _) p.length_texts
    (by rw [q.length_texts, hblocks, hn]) hfill
  have hlength : (p.notices.flatMap Notice.texts).length =
      (q.notices.flatMap Notice.texts).length := by
    rw [length_noticeTexts, length_noticeTexts, hn]
  obtain ⟨hnotices, hcontent⟩ := List.append_inj htexts hlength
  obtain ⟨hcontent, hroot⟩ := content_eq_of_texts hblocks hcontent
  obtain ⟨root, notices, content⟩ := p
  obtain ⟨root', notices', content'⟩ := q
  rw [Page.mk.injEq]
  exact ⟨hroot, notices_eq_of_texts hnotices, hcontent⟩

end Page

end Gatehouse
