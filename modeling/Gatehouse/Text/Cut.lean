namespace Gatehouse.Text

/-- What follows a given beginning. -/
def after? : List Char → List Char → Option (List Char)
  | [], rest => some rest
  | w :: word, c :: rest => if w = c then after? word rest else none
  | _ :: _, [] => none

/-- The text before the first separator and the text after it, if it occurs. -/
def cutAt (sep : Char) : List Char → List Char × Option (List Char)
  | [] => ([], none)
  | c :: rest =>
    if c = sep then ([], some rest)
    else
      let (before, after) := cutAt sep rest
      (c :: before, after)

/-- The text after the last separator and the text before it, if it occurs. -/
def cutAtLast (sep : Char) (cs : List Char) : Option (List Char) × List Char :=
  let (after, before) := cutAt sep cs.reverse
  (before.map List.reverse, after.reverse)

/-- The pieces between separators; there is always one. -/
def splitAt (sep : Char) : List Char → List (List Char)
  | [] => [[]]
  | c :: rest =>
    if c = sep then [] :: splitAt sep rest
    else match splitAt sep rest with
      | [] => [[c]]
      | piece :: more => (c :: piece) :: more

/-- A text without the characters of a class at its end. -/
def trimEnd (p : Char → Bool) (cs : List Char) : List Char := (cs.reverse.dropWhile p).reverse

/-- A text without the characters of a class at its two ends. -/
def trim (p : Char → Bool) (cs : List Char) : List Char := trimEnd p (cs.dropWhile p)

theorem after?_eq_some_iff {word cs rest : List Char} :
    after? word cs = some rest ↔ cs = word ++ rest := by
  induction word generalizing cs with
  | nil => simp [after?, eq_comm]
  | cons w word ih =>
    cases cs with
    | nil => simp [after?]
    | cons c cs =>
      by_cases h : w = c
      · simp [after?, h, ih]
      · simp [after?, h, Ne.symm h]

/-- A separator that is not in the first part ends it. -/
theorem cutAt_append_sep {sep : Char} {before : List Char} (h : sep ∉ before) (rest : List Char) :
    cutAt sep (before ++ sep :: rest) = (before, some rest) := by
  induction before with
  | nil => simp [cutAt]
  | cons c before ih =>
    simp only [List.mem_cons, not_or] at h
    simp [cutAt, Ne.symm h.1, ih h.2]

theorem cutAt_of_not_mem {sep : Char} {cs : List Char} (h : sep ∉ cs) :
    cutAt sep cs = (cs, none) := by
  induction cs with
  | nil => rfl
  | cons c cs ih =>
    simp only [List.mem_cons, not_or] at h
    simp [cutAt, Ne.symm h.1, ih h.2]

theorem splitAt_of_not_mem {sep : Char} {cs : List Char} (h : sep ∉ cs) :
    splitAt sep cs = [cs] := by
  induction cs with
  | nil => rfl
  | cons c cs ih =>
    simp only [List.mem_cons, not_or] at h
    simp [splitAt, Ne.symm h.1, ih h.2]

theorem splitAt_ne_nil (sep : Char) (cs : List Char) : splitAt sep cs ≠ [] := by
  cases cs with
  | nil => simp [splitAt]
  | cons c cs =>
    rw [splitAt]
    split
    next => simp
    next => split <;> simp

theorem splitAt_append_sep {sep : Char} {before : List Char} (h : sep ∉ before)
    (rest : List Char) : splitAt sep (before ++ sep :: rest) = before :: splitAt sep rest := by
  induction before with
  | nil => simp [splitAt]
  | cons c before ih =>
    simp only [List.mem_cons, not_or] at h
    simp [splitAt, Ne.symm h.1, ih h.2]

/-- Pieces without the separator come back from the text in which it stands between them. -/
theorem splitAt_intercalate {sep : Char} {pieces : List (List Char)} (hne : pieces ≠ [])
    (h : ∀ piece ∈ pieces, sep ∉ piece) : splitAt sep (List.intercalate [sep] pieces) = pieces := by
  induction pieces with
  | nil => exact absurd rfl hne
  | cons piece more ih =>
    have hp := h piece (List.mem_cons_self ..)
    cases more with
    | nil => simpa [List.intercalate] using splitAt_of_not_mem hp
    | cons next more =>
      have := ih (by simp) fun q hq => h q (List.mem_cons_of_mem _ hq)
      simpa [List.intercalate, splitAt_append_sep hp] using this

theorem cutAt_cons_of_ne {sep c : Char} (h : c ≠ sep) (rest : List Char) :
    cutAt sep (c :: rest) = (c :: (cutAt sep rest).1, (cutAt sep rest).2) := by
  simp [cutAt, h]


/-- What stands before a separator starts as the whole does, or is empty. -/
theorem head?_cutAt_fst (sep : Char) (cs : List Char) :
    (cutAt sep cs).1.head? = none ∨ (cutAt sep cs).1.head? = cs.head? := by
  cases cs with
  | nil => exact Or.inl rfl
  | cons c cs =>
    by_cases h : c = sep
    · exact Or.inl (by simp [cutAt, h])
    · exact Or.inr (by rw [cutAt_cons_of_ne h]; rfl)

end Gatehouse.Text
