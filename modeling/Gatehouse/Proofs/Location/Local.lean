import Gatehouse.Target
import Gatehouse.Url.Location
import Gatehouse.Url.Query.Lemmas

namespace Gatehouse

namespace Target

theorem isLocal_iff {cs : List Char} :
    isLocal cs ↔ ∃ rest, cs = '/' :: rest ∧ rest.head? ≠ some '/' ∧ rest.head? ≠ some '\\' ∧
      ∀ c ∈ rest, isControl c = false := by
  constructor
  · intro h
    unfold isLocal at h
    split at h
    next => simp at h
    next => simp at h
    next rest hslash hback =>
      refine ⟨rest, rfl, ?_, ?_, ?_⟩
      · intro hr
        obtain ⟨tail, rfl⟩ := List.head?_eq_some_iff.mp hr
        exact hslash tail rfl
      · intro hr
        obtain ⟨tail, rfl⟩ := List.head?_eq_some_iff.mp hr
        exact hback tail rfl
      · simpa using h
    next => simp at h
  · rintro ⟨rest, rfl, hslash, hback, hrest⟩
    unfold isLocal
    split
    next heq => simp_all
    next heq => simp_all
    next heq =>
      obtain rfl := (List.cons.inj heq).2
      simpa using hrest
    next hne => exact absurd rfl (hne rest)

theorem isLocal_append {cs tail : List Char} (h : isLocal cs) (hslash : tail.head? ≠ some '/')
    (hback : tail.head? ≠ some '\\') (ht : ∀ c ∈ tail, isControl c = false) :
    isLocal (cs ++ tail) := by
  obtain ⟨rest, rfl, hs, hb, hr⟩ := isLocal_iff.mp h
  refine isLocal_iff.mpr ⟨rest ++ tail, rfl, ?_, ?_, ?_⟩
  · cases rest with
    | nil => exact hslash
    | cons => exact hs
  · cases rest with
    | nil => exact hback
    | cons => exact hb
  · intro c hc
    exact (List.mem_append.mp hc).elim (hr c) (ht c)

theorem isControl_of_isDropped {c : Char} (h : Url.Parts.isDropped c) : isControl c := by
  simp only [Url.Parts.isDropped, Bool.or_eq_true, decide_eq_true_eq] at h
  rcases h with (rfl | rfl) | rfl <;> decide

theorem clean_of_isLocal {cs : List Char} (h : isLocal cs) : Url.Parts.clean cs = cs := by
  obtain ⟨rest, rfl, _, _, hrest⟩ := isLocal_iff.mp h
  have hslash : Url.Parts.isLeading '/' = false := by decide
  rw [Url.Parts.clean, List.dropWhile_cons_of_neg (by simp [hslash])]
  apply List.filter_eq_self.mpr
  intro c hc
  rcases List.mem_cons.mp hc with rfl | hc
  · decide
  · have := hrest c hc
    cases hd : Url.Parts.isDropped c with
    | false => rfl
    | true => rw [isControl_of_isDropped hd] at this; simp at this

end Target

namespace Location

/-- A character that a header may hold, and no space. -/
def isGraphic (c : Char) : Bool := 0x21 ≤ c.toNat && c.toNat ≤ 0x7E

/-- A location on the site that it was sent by: it starts with one slash, and browsers do not take
what follows for a second one. -/
structure IsOnSite (cs : List Char) : Prop where
  graphic : ∀ c ∈ cs, isGraphic c
  starts : ∃ rest, cs = '/' :: rest ∧ rest.head? ≠ some '/' ∧ rest.head? ≠ some '\\'

theorem upper_isGraphic {n : Nat} (h : n < 16) : isGraphic (Hex.upper n) := by
  have : ∀ m : Fin 16, isGraphic (Hex.upper m) := by decide
  exact this ⟨n, h⟩

theorem isGraphic_of_isUnreserved {c : Char} (h : Percent.isUnreserved c) : isGraphic c := by
  simp only [Percent.isUnreserved, Bool.or_eq_true, decide_eq_true_eq, Letter.isAlphanum_iff] at h
  simp only [isGraphic, Bool.and_eq_true, decide_eq_true_eq]
  rcases h with (((h | rfl) | rfl) | rfl) | rfl
  · omega
  all_goals decide

theorem isGraphic_of_isMark {c : Char} (h : isMark c) : isGraphic c := by
  have : "!$&'()*+,/:;=@".toList.all isGraphic := by decide
  exact List.all_eq_true.mp this c (by simpa [isMark] using h)

theorem isGraphic_of_isKept {c : Char} (h : isKept c) : isGraphic c := by
  simp only [isKept, Bool.or_eq_true, decide_eq_true_eq] at h
  rcases h with h | rfl
  · exact isGraphic_of_isMark h
  · decide

theorem isGraphic_of_isKeptInQuery {c : Char} (h : isKeptInQuery c) : isGraphic c := by
  simp only [isKeptInQuery, Bool.or_eq_true, decide_eq_true_eq] at h
  rcases h with h | rfl
  · exact isGraphic_of_isKept h
  · decide

theorem isGraphic_of_isKeptInFragment {c : Char} (h : isKeptInFragment c) : isGraphic c := by
  simp only [isKeptInFragment, Bool.or_eq_true, decide_eq_true_eq] at h
  rcases h with h | rfl
  · exact isGraphic_of_isKeptInQuery h
  · decide

theorem isGraphic_of_isKeptInValue {c : Char} (h : isKeptInValue c) : isGraphic c := by
  have : "!$'()*,/:;?@".toList.all isGraphic := by decide
  exact List.all_eq_true.mp this c (by simpa [isKeptInValue] using h)

theorem isControl_of_isGraphic {c : Char} (h : isGraphic c) : Target.isControl c = false := by
  simp only [isGraphic, Bool.and_eq_true, decide_eq_true_eq] at h
  simp only [Target.isControl, Bool.or_eq_false_iff, decide_eq_false_iff_not]
  refine ⟨by omega, ?_⟩
  rintro rfl
  exact absurd h.2 (by decide)

end Location

namespace Percent

open Location (isGraphic upper_isGraphic isGraphic_of_isUnreserved)

theorem isGraphic_of_mem_escape {b : UInt8} {c : Char} (h : c ∈ escape b) : isGraphic c := by
  have hb := UInt8.toNat_lt b
  simp only [escape, List.mem_cons, List.not_mem_nil, or_false] at h
  rcases h with rfl | rfl | rfl
  · decide
  · exact upper_isGraphic (by omega)
  · exact upper_isGraphic (by omega)

variable {keep : Char → Bool}

theorem isGraphic_of_mem_encodeChar (hk : ∀ c, keep c → isGraphic c) {c d : Char}
    (h : d ∈ encodeChar keep c) : isGraphic d := by
  unfold encodeChar at h
  split at h
  next hc =>
    rw [List.mem_singleton.mp h]
    rcases Bool.or_eq_true_iff.mp hc with hc | hc
    · exact isGraphic_of_isUnreserved hc
    · exact hk c hc
  next =>
    obtain ⟨b, _, hb⟩ := List.mem_flatMap.mp h
    exact isGraphic_of_mem_escape hb

theorem isGraphic_of_mem_encode (hk : ∀ c, keep c → isGraphic c) {cs : List Char} {d : Char}
    (h : d ∈ encode keep cs) : isGraphic d := by
  obtain ⟨c, _, hd⟩ := List.mem_flatMap.mp h
  exact isGraphic_of_mem_encodeChar hk hd

theorem isGraphic_of_mem_encodePlus (hk : ∀ c, keep c → isGraphic c) {cs : List Char}
    {d : Char} (h : d ∈ encodePlus keep cs) : isGraphic d := by
  obtain ⟨c, _, hd⟩ := List.mem_flatMap.mp h
  split at hd
  next =>
    rw [List.mem_singleton.mp hd]
    decide
  next => exact isGraphic_of_mem_encodeChar hk hd

theorem head?_encode (keep : Char → Bool) (cs : List Char) :
    (encode keep cs).head? = cs.head? ∨ (encode keep cs).head? = some '%' := by
  cases cs with
  | nil => exact Or.inl rfl
  | cons c cs =>
    rw [encode, List.flatMap_cons, encodeChar]
    split
    next => exact Or.inl rfl
    next =>
      right
      cases hb : String.utf8EncodeChar c with
      | nil => exact absurd hb (by simp)
      | cons b bs => rfl

end Percent

namespace Location

/-- A local path with a field is local too, since the value of the field is escaped. -/
theorem isLocal_withField {path name : String} (h : Target.isLocal path.toList)
    (hname : name.toList.all isGraphic) (value : List Char) :
    Target.isLocal (withField path name value) := by
  rw [withField, List.append_assoc]
  refine Target.isLocal_append h (by simp) (by simp) fun c hc => isControl_of_isGraphic ?_
  rcases List.mem_append.mp hc with hc | hc
  · rcases List.mem_cons.mp hc with rfl | hc
    · decide
    · exact List.all_eq_true.mp hname c hc
  · rcases List.mem_cons.mp hc with rfl | hc
    · decide
    · exact Percent.isGraphic_of_mem_encodePlus (fun _ => isGraphic_of_isKeptInValue) hc

theorem takeScheme_slash (rest : List Char) :
    Url.Parts.takeScheme ('/' :: rest) = ([], '/' :: rest) := by
  rw [Url.Parts.takeScheme, Text.cutAt_cons_of_ne (by decide)]
  split
  next heq =>
    obtain ⟨rfl, _⟩ := Prod.mk.inj heq
    rfl
  next => rfl

theorem takeAuthority_slash {rest : List Char} (h : rest.head? ≠ some '/') :
    Url.Parts.takeAuthority ('/' :: rest) = ([], '/' :: rest) := by
  unfold Url.Parts.takeAuthority
  split
  next tail heq =>
    obtain rfl := (List.cons.inj heq).2
    exact absurd rfl h
  next => rfl

theorem split_of_isLocal {cs : List Char} (h : Target.isLocal cs) :
    Url.Parts.split cs =
      { scheme := []
        authority := []
        path := (Text.cutAt '?' (Text.cutAt '#' cs).1).1
        query := (Text.cutAt '?' (Text.cutAt '#' cs).1).2.getD []
        fragment := (Text.cutAt '#' cs).2.getD [] } := by
  obtain ⟨rest, rfl, hslash, _, _⟩ := Target.isLocal_iff.mp h
  simp only [Url.Parts.split, Target.clean_of_isLocal h, takeScheme_slash,
    takeAuthority_slash hslash]

theorem path_of_isLocal {cs : List Char} (h : Target.isLocal cs) :
    ∃ rest, (Url.Parts.split cs).path = '/' :: rest ∧ rest.head? ≠ some '/' ∧
      rest.head? ≠ some '\\' := by
  obtain ⟨rest, rfl, hslash, hback, _⟩ := Target.isLocal_iff.mp h
  rw [split_of_isLocal h, Text.cutAt_cons_of_ne (by decide)]
  simp only
  rw [Text.cutAt_cons_of_ne (by decide)]
  have hhead : (Text.cutAt '?' (Text.cutAt '#' rest).1).1.head? = none ∨
      (Text.cutAt '?' (Text.cutAt '#' rest).1).1.head? = rest.head? := by
    rcases Text.head?_cutAt_fst '?' (Text.cutAt '#' rest).1 with h | h
    · exact Or.inl h
    · rw [h]
      exact Text.head?_cutAt_fst '#' rest
  refine ⟨_, rfl, ?_, ?_⟩
  · intro hs
    rcases hhead with h | h <;> simp_all
  · intro hs
    rcases hhead with h | h <;> simp_all

theorem encode_of_isLocal {cs : List Char} (h : Target.isLocal cs) :
    encode cs = .ok (Percent.encode isKept (Url.Parts.split cs).path ++
      Url.Parts.after '?' (Percent.encode isKeptInQuery (Url.Parts.split cs).query) ++
      Url.Parts.after '#' (Percent.encode isKeptInFragment (Url.Parts.split cs).fragment)) := by
  have hnone : (Url.Parts.split cs).authority = [] := by rw [split_of_isLocal h]
  have hscheme : (Url.Parts.split cs).scheme = [] := by rw [split_of_isLocal h]
  have hwithout : "" ∉ Url.Parts.hierarchical := by decide
  rw [encode_of_noAuthority hnone, hscheme, Url.Parts.join]
  simp [Url.Parts.hasAuthority, hwithout]

theorem mem_after {mark c : Char} {cs : List Char} (h : c ∈ Url.Parts.after mark cs) :
    c = mark ∨ c ∈ cs := by
  unfold Url.Parts.after at h
  split at h
  next => simp at h
  next => exact List.mem_cons.mp h

theorem head?_after (mark : Char) (cs : List Char) :
    (Url.Parts.after mark cs).head? = none ∨ (Url.Parts.after mark cs).head? = some mark := by
  unfold Url.Parts.after
  split
  next => exact Or.inl rfl
  next => exact Or.inr rfl

/-- A path that starts with one slash only, followed by what starts with neither slash nor
backslash, starts that way however it is encoded. -/
theorem encode_path_append {rest tail : List Char} (hslash : rest.head? ≠ some '/')
    (hback : rest.head? ≠ some '\\')
    (htail : ∀ c, tail.head? = some c → c ≠ '/' ∧ c ≠ '\\') :
    ∃ more, Percent.encode isKept ('/' :: rest) ++ tail = '/' :: more ∧ more.head? ≠ some '/' ∧
      more.head? ≠ some '\\' := by
  refine ⟨Percent.encode isKept rest ++ tail, rfl, ?_⟩
  cases hr : Percent.encode isKept rest with
  | nil =>
    rw [List.nil_append]
    exact ⟨fun h => (htail _ h).1 rfl, fun h => (htail _ h).2 rfl⟩
  | cons c cs =>
    rcases Percent.head?_encode isKept rest with h | h
    · rw [hr] at h
      rw [← h] at hslash hback
      exact ⟨hslash, hback⟩
    · rw [hr] at h
      rw [List.cons_append, List.head?_cons, Option.some.inj h]
      exact ⟨by decide, by decide⟩

/-- A local path is sent as a location on the site, whatever stands in it. -/
theorem isOnSite_of_isLocal {cs : List Char} (h : Target.isLocal cs) :
    ∃ location, encode cs = .ok location ∧ IsOnSite location := by
  refine ⟨_, encode_of_isLocal h, ?_, ?_⟩
  · intro c hc
    rcases List.mem_append.mp hc with hc | hc
    · rcases List.mem_append.mp hc with hc | hc
      · exact Percent.isGraphic_of_mem_encode (fun _ => isGraphic_of_isKept) hc
      · rcases mem_after hc with rfl | hc
        · decide
        · exact Percent.isGraphic_of_mem_encode (fun _ => isGraphic_of_isKeptInQuery) hc
    · rcases mem_after hc with rfl | hc
      · decide
      · exact Percent.isGraphic_of_mem_encode (fun _ => isGraphic_of_isKeptInFragment) hc
  · obtain ⟨rest, hpath, hslash, hback⟩ := path_of_isLocal h
    rw [hpath, List.append_assoc]
    apply encode_path_append hslash hback
    intro c hc
    rw [List.head?_append] at hc
    rcases head?_after '?' (Percent.encode isKeptInQuery (Url.Parts.split cs).query) with hq | hq
    · rw [hq, Option.none_or] at hc
      rcases head?_after '#' (Percent.encode isKeptInFragment (Url.Parts.split cs).fragment)
        with hf | hf
      · rw [hf] at hc
        simp at hc
      · rw [hf] at hc
        obtain rfl := Option.some.inj hc
        exact ⟨by decide, by decide⟩
    · rw [hq, Option.some_or] at hc
      obtain rfl := Option.some.inj hc
      exact ⟨by decide, by decide⟩

end Location

end Gatehouse
