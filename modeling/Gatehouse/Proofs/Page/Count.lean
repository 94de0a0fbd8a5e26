import Gatehouse.Proofs.Page.Frame
import Gatehouse.Proofs.Page.Notices
import Mathlib.Data.List.Basic

namespace Gatehouse

namespace Text

/-- How often a word stands in a text. -/
def occurrences (word : List Char) : List Char → Nat
  | [] => 0
  | c :: rest => (if word.isPrefixOf (c :: rest) then 1 else 0) + occurrences word rest

/-- A text in which a word neither stands nor begins. -/
def isFreeOf (word : List Char) : List Char → Bool
  | [] => true
  | c :: rest =>
    !word.isPrefixOf (c :: rest) && !(c :: rest).isPrefixOf word && isFreeOf word rest

/-- A text that may stand in front of any other and adds no occurrence of a word. -/
def Passes (word cs : List Char) : Prop :=
  ∀ rest, occurrences word (cs ++ rest) = occurrences word rest

variable {word cs : List Char}

theorem passes_of_isFreeOf (h : isFreeOf word cs) : Passes word cs := by
  intro rest
  induction cs with
  | nil => rfl
  | cons c cs ih =>
    simp only [isFreeOf, Bool.and_eq_true, Bool.not_eq_true', Bool.eq_false_iff, ne_eq,
      List.isPrefixOf_iff_prefix] at h
    obtain ⟨⟨hstands, hbegins⟩, hrest⟩ := h
    -- A word that begins in a text stands in it as a whole or goes on behind it.
    have hnot : ¬ word <+: c :: (cs ++ rest) := fun hword =>
      (List.prefix_or_prefix_of_prefix hword (List.prefix_append (c :: cs) rest)).elim hstands
        hbegins
    rw [List.cons_append, occurrences, ih hrest, if_neg (by rwa [List.isPrefixOf_iff_prefix]),
      Nat.zero_add]

theorem passes_of_not_mem {c : Char} (h : c ∉ cs) : Passes (c :: word) cs := by
  intro rest
  induction cs with
  | nil => rfl
  | cons d cs ih =>
    simp only [List.mem_cons, not_or] at h
    rw [List.cons_append, occurrences, ih h.2]
    simp [h.1]

theorem Passes.append {more : List Char} (h : Passes word cs) (hmore : Passes word more) :
    Passes word (cs ++ more) := by
  intro rest
  rw [List.append_assoc, h, hmore]

/-- A word that does not begin anew inside of itself. -/
theorem occurrences_self_append {c : Char} (h : isFreeOf (c :: word) word) (rest : List Char) :
    occurrences (c :: word) (c :: word ++ rest) = occurrences (c :: word) rest + 1 := by
  have hword : (c :: word).isPrefixOf (c :: (word ++ rest)) :=
    List.isPrefixOf_iff_prefix.mpr (List.prefix_append (c :: word) rest)
  rw [List.cons_append, occurrences, if_pos hword, passes_of_isFreeOf h, Nat.add_comm]

end Text

/-- The block in which the notice of a logout stands on a page. -/
def Notice.logoutBlock : String :=
  "<div class=\"alert alert-info\" role=\"alert\">You have been logged out.</div>"

namespace Segment

open Notice (logoutBlock)

/-- Nothing of the block of a logout is in the markup of a segment. -/
def Passes : Segment → Prop
  | .markup s => Text.Passes logoutBlock.toList s.toList
  | .hole _ => True

theorem passes_literal {word cs : List Char} (hword : logoutBlock = String.ofList word)
    (h : Text.isFreeOf word cs) : (markup (String.ofList cs)).Passes := by
  rw [Passes, hword, String.toList_ofList, String.toList_ofList]
  exact Text.passes_of_isFreeOf h

theorem passes_append {s t : String} (hs : (markup s).Passes) (ht : (markup t).Passes) :
    (markup (s ++ t)).Passes := by
  rw [Passes, String.toList_append]
  exact Text.Passes.append hs ht

theorem passes_render {segments : List Segment} (h : segments.Forall Passes) :
    Text.Passes logoutBlock.toList (segments.flatMap render) := by
  induction segments with
  | nil => exact fun _ => rfl
  | cons segment segments ih =>
    rw [List.forall_cons] at h
    rw [List.flatMap_cons]
    refine Text.Passes.append ?_ (ih h.2)
    cases segment with
    | markup s => exact h.1
    | hole s =>
      have hmark : '<' ∉ Markup.escape s.toList := Markup.mark_not_mem_escape (by decide) _
      exact Text.passes_of_not_mem hmark

end Segment

namespace Page

open Notice (logoutBlock)
open Segment (Passes passes_literal passes_append passes_render)

theorem passes_head (content : Content) :
    List.Forall Passes [.markup headMarkup, .markup content.title, .markup bodyMarkup] := by
  have hhead : Passes (.markup headMarkup) :=
    passes_append (passes_append (passes_append (passes_literal rfl (by decide))
      (passes_literal rfl (by decide))) (passes_literal rfl (by decide)))
      (passes_literal rfl (by decide))
  refine ⟨hhead, ?_, passes_literal rfl (by decide)⟩
  cases content with
  | login => exact passes_literal rfl (by decide)
  | dashboard => exact passes_literal rfl (by decide)

theorem passes_error (error : Option String) : (Content.errorSegments error).Forall Passes := by
  cases error with
  | none => trivial
  | some error => exact ⟨passes_literal rfl (by decide), trivial, passes_literal rfl (by decide)⟩

theorem passes_target (target : Option String) :
    (Content.targetSegments target).Forall Passes := by
  cases target with
  | none => trivial
  | some target => exact ⟨passes_literal rfl (by decide), trivial, passes_literal rfl (by decide)⟩

theorem passes_form (root path : String) : (Content.formSegments root path).Forall Passes :=
  ⟨passes_literal rfl (by decide), trivial⟩

theorem passes_content (content : Content) (root : String) :
    (content.segments root).Forall Passes := by
  cases content with
  | login error target username =>
    have husername : Passes (.markup Content.usernameMarkup) :=
      passes_append (passes_append (passes_literal rfl (by decide))
        (passes_literal rfl (by decide))) (passes_literal rfl (by decide))
    have hpassword : Passes (.markup Content.passwordMarkup) :=
      passes_append (passes_append (passes_append (passes_append (passes_append
        (passes_literal rfl (by decide)) (passes_literal rfl (by decide)))
        (passes_literal rfl (by decide))) (passes_literal rfl (by decide)))
        (passes_literal rfl (by decide))) (passes_literal rfl (by decide))
    simp only [Content.segments, List.forall_append]
    exact ⟨⟨⟨⟨⟨⟨passes_literal rfl (by decide), passes_error error⟩,
      passes_literal rfl (by decide)⟩, passes_form _ _⟩, passes_literal rfl (by decide)⟩,
      passes_target target⟩, husername, trivial, hpassword⟩
  | dashboard username =>
    simp only [Content.segments, List.forall_append]
    exact ⟨⟨⟨passes_literal rfl (by decide), trivial, passes_literal rfl (by decide)⟩,
      passes_form _ _⟩, passes_literal rfl (by decide)⟩

theorem occurrences_notice (rest : List Char) :
    Text.occurrences logoutBlock.toList (Notice.ofLogout.segments.flatMap Segment.render ++ rest) =
      Text.occurrences logoutBlock.toList rest + 1 := by
  have hsegments : Notice.ofLogout.segments.flatMap Segment.render =
      "\n                ".toList ++ (logoutBlock.toList ++ "\n            ".toList) := by
    decide +kernel
  have hbefore : Passes (.markup "\n                ") := passes_literal rfl (by decide)
  have hafter : Passes (.markup "\n            ") := passes_literal rfl (by decide)
  have hblock : Text.occurrences logoutBlock.toList
      (logoutBlock.toList ++ ("\n            ".toList ++ rest)) =
        Text.occurrences logoutBlock.toList ("\n            ".toList ++ rest) + 1 :=
    Text.occurrences_self_append (by decide +kernel) _
  rw [hsegments, List.append_assoc, List.append_assoc, hbefore, hblock, hafter]

theorem occurrences_notices (n : Nat) (rest : List Char) :
    Text.occurrences logoutBlock.toList
        (((List.replicate n Notice.ofLogout).flatMap Notice.segments).flatMap Segment.render ++
          rest) =
      n + Text.occurrences logoutBlock.toList rest := by
  induction n with
  | zero => rw [Nat.zero_add]; rfl
  | succ n ih =>
    rw [List.replicate_succ, List.flatMap_cons, List.flatMap_append, List.append_assoc,
      occurrences_notice, ih]
    omega

/-- How many blocks with the notice of a logout a page has. -/
def logoutBlocks (p : Page) : Nat := Text.occurrences logoutBlock.toList p.render.toList

/-- A page that shows no notices but those of logouts has a block for each of them and no more. -/
theorem logoutBlocks_eq {p : Page} {n : Nat} (h : p.notices = List.replicate n .ofLogout) :
    p.logoutBlocks = n := by
  have hgap : List.Forall Passes [.markup "\n        \n        "] :=
    passes_literal rfl (by decide)
  have hfoot : List.Forall Passes [.markup footMarkup] := passes_literal rfl (by decide)
  have hend := passes_render hfoot []
  rw [List.append_nil] at hend
  simp only [logoutBlocks, render, String.toList_ofList, segments, List.flatMap_append,
    List.append_assoc]
  rw [passes_render (passes_head p.content), h, occurrences_notices, passes_render hgap,
    passes_render (passes_content p.content p.root), hend]
  rfl

end Page

end Gatehouse
