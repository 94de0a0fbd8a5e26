import Gatehouse.Http.Page
import Gatehouse.Text.Cut

namespace Gatehouse

namespace Markup

/-- The marks at which the text of an element or the value of an attribute ends. -/
def marks : List Char := ['<', '>', '"', '\'']

/-- A text that stays inside of what it stands in. -/
def IsInert (cs : List Char) : Prop := ∀ c ∈ cs, c ∉ marks

theorem isInert_entity (c : Char) : IsInert (entity c) := by
  unfold entity
  split
  next => simp [IsInert, marks]
  next => simp [IsInert, marks]
  next => simp [IsInert, marks]
  next => simp [IsInert, marks]
  next => simp [IsInert, marks]
  next hlt hgt hquote happ =>
    intro d hd
    rw [List.mem_singleton.mp hd]
    simpa [marks] using ⟨hlt, hgt, hquote, happ⟩

theorem isInert_escape (cs : List Char) : IsInert (escape cs) := by
  intro c hc
  obtain ⟨d, _, hd⟩ := List.mem_flatMap.mp hc
  exact isInert_entity d c hd

theorem mark_not_mem_escape {c : Char} (h : c ∈ marks) (cs : List Char) : c ∉ escape cs :=
  fun hc => isInert_escape cs c hc h

theorem escape_injective : Function.Injective escape :=
  Function.LeftInverse.injective unescape_escape

/-- Markup that ends a text in front of it. -/
def EndsText (markup : String) : Prop := ∃ c more, markup.toList = c :: more ∧ c ∈ marks

theorem EndsText.append {markup : String} (h : EndsText markup) (more : String) :
    EndsText (markup ++ more) := by
  obtain ⟨c, rest, hc, hend⟩ := h
  exact ⟨c, rest ++ more.toList, by rw [String.toList_append, hc, List.cons_append], hend⟩

/-- A text is read up to its end. -/
theorem escape_append_inj {c : Char} (h : c ∈ marks) {cs ds rest more : List Char}
    (heq : escape cs ++ c :: rest = escape ds ++ c :: more) : cs = ds ∧ rest = more := by
  have hcut := congrArg (Text.cutAt c) heq
  rw [Text.cutAt_append_sep (mark_not_mem_escape h cs),
    Text.cutAt_append_sep (mark_not_mem_escape h ds)] at hcut
  obtain ⟨hcs, hrest⟩ := Prod.mk.inj hcut
  exact ⟨escape_injective hcs, Option.some.inj hrest⟩

end Markup

/-- Markup with gaps, where there is `none`. -/
abbrev Frame := List (Option String)

namespace Frame

/-- The markup with texts in the gaps, one after the other. A gap for which no text is left stays
empty. -/
def fill : Frame → List String → List Char
  | [], _ => []
  | some markup :: rest, texts => markup.toList ++ fill rest texts
  | none :: rest, [] => fill rest []
  | none :: rest, text :: texts => Markup.escape text.toList ++ fill rest texts

/-- Every gap is followed by markup that ends a text. -/
def IsClosed : Frame → Prop
  | [] => True
  | some _ :: rest => IsClosed rest
  | none :: some markup :: rest => Markup.EndsText markup ∧ IsClosed rest
  | [none] => False
  | none :: none :: _ => False

theorem IsClosed.append {f g : Frame} (hf : f.IsClosed) (hg : g.IsClosed) : (f ++ g).IsClosed := by
  induction f using IsClosed.induct with
  | case1 => exact hg
  | case2 markup rest ih => exact ih hf
  | case3 markup rest ih => exact ⟨hf.1, ih hf.2⟩
  | case4 => exact hf.elim
  | case5 => exact hf.elim

/-- The texts in a frame come back from the whole. -/
theorem fill_injective {f : Frame} (h : f.IsClosed) {texts others : List String}
    (ht : texts.length = f.count none) (ho : others.length = f.count none)
    (heq : f.fill texts = f.fill others) : texts = others := by
  -- The cases are those of a closed frame, where a gap comes with the markup that ends its text.
  induction f using IsClosed.induct generalizing texts others with
  | case1 =>
    rw [List.count_nil, List.length_eq_zero_iff] at ht ho
    rw [ht, ho]
  | case2 markup rest ih =>
    rw [List.count_cons_of_ne (by simp)] at ht ho
    exact ih h ht ho (List.append_cancel_left heq)
  | case3 markup rest ih =>
    obtain ⟨⟨c, more, hc, hend⟩, hrest⟩ := h
    rw [List.count_cons_self, List.count_cons_of_ne (by simp)] at ht ho
    obtain ⟨text, texts, rfl⟩ := List.exists_cons_of_length_eq_add_one ht
    obtain ⟨other, others, rfl⟩ := List.exists_cons_of_length_eq_add_one ho
    simp only [fill, hc, List.cons_append] at heq
    obtain ⟨htext, hmore⟩ := Markup.escape_append_inj hend heq
    have htexts := ih hrest (Nat.succ.inj ht) (Nat.succ.inj ho) (List.append_cancel_left hmore)
    rw [String.toList_injective htext, htexts]
  | case4 => exact h.elim
  | case5 => exact h.elim

theorem fill_append_nil (f g : Frame) : (f ++ g).fill [] = f.fill [] ++ g.fill [] := by
  induction f with
  | nil => rfl
  | cons part f ih =>
    cases part with
    | none => exact ih
    | some markup => rw [List.cons_append, fill, fill, ih, List.append_assoc]

/-- The texts add no mark that escaped text has none of. -/
theorem count_fill {c : Char} (h : ∀ text, c ∉ Markup.escape text) (f : Frame)
    (texts : List String) : (f.fill texts).count c = (f.fill []).count c := by
  induction f generalizing texts with
  | nil => rfl
  | cons part f ih =>
    cases part with
    | some markup => rw [fill, fill, List.count_append, List.count_append, ih]
    | none =>
      cases texts with
      | nil => rfl
      | cons text texts =>
        rw [fill, fill, List.count_append, List.count_eq_zero.mpr (h _), Nat.zero_add, ih]

end Frame

namespace Segment

def markup? : Segment → Option String
  | .markup s => some s
  | .hole _ => none

def text? : Segment → Option String
  | .markup _ => none
  | .hole s => some s

/-- The frame that segments make. -/
def frame (segments : List Segment) : Frame := segments.map markup?

theorem frame_append (segments more : List Segment) :
    frame (segments ++ more) = frame segments ++ frame more := List.map_append ..

theorem count_frame (segments : List Segment) :
    (frame segments).count none = (segments.filterMap text?).length := by
  induction segments with
  | nil => rfl
  | cons segment segments ih =>
    cases segment with
    | markup s => exact (List.count_cons_of_ne (by simp [markup?])).trans ih
    | hole s => exact List.count_cons_self.trans (congrArg (· + 1) ih)

/-- Segments are rendered as their frame with their texts in it. -/
theorem render_eq_fill (segments : List Segment) :
    segments.flatMap render = (frame segments).fill (segments.filterMap text?) := by
  induction segments with
  | nil => rfl
  | cons segment segments ih =>
    cases segment with
    | markup s => exact congrArg (s.toList ++ ·) ih
    | hole s => exact congrArg (Markup.escape s.toList ++ ·) ih

end Segment

end Gatehouse
