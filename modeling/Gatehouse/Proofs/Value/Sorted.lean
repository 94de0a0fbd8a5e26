import Gatehouse.Proofs.Reply

namespace Gatehouse.Value

variable {α : Type}

theorem takeRun_append {falling : Bool} {last : Value × α} {entries run rest : List (Value × α)}
    (h : takeRun falling last entries = .ok (run, rest)) : run ++ rest = last :: entries := by
  induction entries generalizing last run with
  | nil =>
    obtain ⟨rfl, rfl⟩ := Prod.mk.inj (Except.ok.inj h)
    rfl
  | cons entry entries ih =>
    obtain ⟨less, _, h⟩ := bind_eq_ok_iff.mp h
    split at h
    next =>
      obtain ⟨⟨more, left⟩, hr, h⟩ := bind_eq_ok_iff.mp h
      obtain ⟨rfl, rfl⟩ := Prod.mk.inj (Except.ok.inj h)
      rw [List.cons_append, ih hr]
    next =>
      obtain ⟨rfl, rfl⟩ := Prod.mk.inj (Except.ok.inj h)
      rfl

theorem firstRun_perm {entries run rest : List (Value × α)}
    (h : firstRun entries = .ok (run, rest)) : (run ++ rest).Perm entries := by
  unfold firstRun at h
  split at h
  next first second more =>
    obtain ⟨falling, _, h⟩ := bind_eq_ok_iff.mp h
    obtain ⟨⟨taken, left⟩, ht, h⟩ := bind_eq_ok_iff.mp h
    obtain ⟨hrun, rfl⟩ := Prod.mk.inj (Except.ok.inj h)
    have hall : first :: taken ++ left = first :: second :: more := by
      rw [List.cons_append, takeRun_append ht]
    rw [← hall]
    apply List.Perm.append_right
    rw [← hrun]
    split
    next => exact List.reverse_perm _
    next => exact List.Perm.refl _
  next =>
    obtain ⟨rfl, rfl⟩ := Prod.mk.inj (Except.ok.inj h)
    rw [List.append_nil]

theorem insertAll_perm {done entries sorted : List (Value × α)}
    (h : insertAll done entries = .ok sorted) : sorted.Perm (done ++ entries) := by
  induction entries generalizing done with
  | nil =>
    obtain rfl := Except.ok.inj h
    rw [List.append_nil]
  | cons entry entries ih =>
    obtain ⟨place, _, h⟩ := bind_eq_ok_iff.mp h
    refine (ih h).trans ?_
    have hplaced : (done.take place ++ entry :: done.drop place).Perm (entry :: done) := by
      refine List.perm_middle.trans ?_
      rw [List.take_append_drop]
    exact (hplaced.append_right entries).trans List.perm_middle.symm

theorem sortByKey_perm {entries sorted : List (Value × α)} (h : sortByKey entries = .ok sorted) :
    sorted.Perm entries := by
  obtain ⟨⟨run, rest⟩, hr, h⟩ := bind_eq_ok_iff.mp h
  exact (insertAll_perm h).trans (firstRun_perm hr)

def IsText (v : Value) : Prop := ∃ s, v = .text s

theorem isLess_ok {a b : Value × α} (ha : a.1.IsText) (hb : b.1.IsText) :
    ∃ less, isLess a b = .ok less := by
  obtain ⟨s, hs⟩ := ha
  obtain ⟨t, ht⟩ := hb
  exact ⟨_, by rw [isLess, hs, ht]; rfl⟩

theorem takeRun_ok (falling : Bool) {last : Value × α} {entries : List (Value × α)}
    (h : ∀ e ∈ last :: entries, e.1.IsText) : ∃ r, takeRun falling last entries = .ok r := by
  induction entries generalizing last with
  | nil => exact ⟨_, rfl⟩
  | cons entry entries ih =>
    obtain ⟨less, hl⟩ := isLess_ok (h entry (by simp)) (h last (by simp))
    obtain ⟨⟨run, rest⟩, hr⟩ := ih fun e he => h e (List.mem_cons_of_mem _ he)
    rw [takeRun, hl]
    by_cases hf : less = falling
    · exact ⟨(last :: run, rest), by simp [bind, Except.bind, hf, hr, pure, Except.pure]⟩
    · exact ⟨([last], entry :: entries), by simp [bind, Except.bind, hf, pure, Except.pure]⟩

theorem firstRun_ok {entries : List (Value × α)} (h : ∀ e ∈ entries, e.1.IsText) :
    ∃ r, firstRun entries = .ok r := by
  unfold firstRun
  split
  next first second more =>
    obtain ⟨falling, hf⟩ := isLess_ok (h second (by simp)) (h first (by simp))
    obtain ⟨⟨run, rest⟩, hr⟩ :=
      takeRun_ok falling fun e he => h e (List.mem_cons_of_mem _ he)
    exact ⟨_, by simp only [hf, hr, bind, Except.bind]; rfl⟩
  next => exact ⟨_, rfl⟩

theorem placeAmong_ok {entry : Value × α} {done : Array (Value × α)} (he : entry.1.IsText)
    (hd : ∀ e ∈ done, e.1.IsText) (low high : Nat) :
    ∃ place, placeAmong entry done low high = .ok place := by
  induction low, high using placeAmong.induct done with
  | case1 low high h middle hm ihlow ihhigh =>
    obtain ⟨less, hl⟩ := isLess_ok he (hd done[low + (high - low) / 2] (Array.getElem_mem hm))
    rw [placeAmong, dif_pos h]
    simp only [Except.bind, hl]
    cases less with
    | true => exact ihlow
    | false => exact ihhigh
  | case2 low high h => exact ⟨low, by rw [placeAmong, dif_neg h]⟩

theorem insertAll_ok {done entries : List (Value × α)} (hd : ∀ e ∈ done, e.1.IsText)
    (he : ∀ e ∈ entries, e.1.IsText) : ∃ sorted, insertAll done entries = .ok sorted := by
  induction entries generalizing done with
  | nil => exact ⟨done, rfl⟩
  | cons entry entries ih =>
    have harray : ∀ e ∈ done.toArray, e.1.IsText := by simpa using hd
    obtain ⟨place, hp⟩ := placeAmong_ok (he entry (by simp)) harray 0 done.length
    have hplaced : ∀ e ∈ done.take place ++ entry :: done.drop place, e.1.IsText := by
      intro e hm
      rcases List.mem_append.mp hm with hm | hm
      · exact hd e (List.mem_of_mem_take hm)
      rcases List.mem_cons.mp hm with rfl | hm
      · exact he e (by simp)
      · exact hd e (List.mem_of_mem_drop hm)
    obtain ⟨sorted, hs⟩ := ih hplaced fun e hm => he e (List.mem_cons_of_mem _ hm)
    exact ⟨sorted, by rw [insertAll]; simp only [bind, Except.bind, hp, hs]⟩

theorem sortByKey_ok {entries : List (Value × α)} (h : ∀ e ∈ entries, e.1.IsText) :
    ∃ sorted, sortByKey entries = .ok sorted := by
  obtain ⟨⟨run, rest⟩, hr⟩ := firstRun_ok h
  have hmem : ∀ e ∈ run ++ rest, e.1.IsText := fun e he => h e ((firstRun_perm hr).mem_iff.mp he)
  have hrun : ∀ e ∈ run, e.1.IsText := fun e he => hmem e (List.mem_append_left _ he)
  obtain ⟨sorted, hs⟩ := insertAll_ok hrun fun e he => hmem e (List.mem_append_right _ he)
  exact ⟨sorted, by rw [sortByKey]; simp only [bind, Except.bind, hr, hs]⟩

end Gatehouse.Value
