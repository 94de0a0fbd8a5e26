import Gatehouse.Proofs.Location.Local

namespace Gatehouse

namespace Target

/-- A path of this site, told by what it starts with and by what stands nowhere in it. -/
structure IsSafe (path : String) : Prop where
  slash : ['/'] <+: path.toList
  notTwo : ¬ ['/', '/'] <+: path.toList
  notBack : ¬ ['/', '\\'] <+: path.toList
  plain : ∀ c ∈ path.toList, 0x20 ≤ c.toNat ∧ c.toNat ≠ 0x7f

/-- Escapes and pluses are read back once. -/
def unquoted (s : String) : String := String.ofList (Percent.decodePlus s.toList)

/-- All but the unreserved characters is escaped, and a space is a plus. -/
def quoted (s : String) : String := String.ofList (Query.writeComponent s)

theorem isControl_eq_false_iff {c : Char} :
    isControl c = false ↔ 0x20 ≤ c.toNat ∧ c.toNat ≠ 0x7f := by
  have hdelete : c = '\x7f' ↔ c.toNat = 0x7f := by
    rw [← Char.toNat_inj]
    rfl
  simp only [isControl, Bool.or_eq_false_iff, decide_eq_false_iff_not, hdelete, Nat.not_lt, ne_eq]

theorem isLocal_iff_isSafe {path : String} : isLocal path.toList ↔ IsSafe path := by
  rw [isLocal_iff]
  constructor
  · rintro ⟨rest, hpath, hslash, hback, hrest⟩
    refine ⟨hpath ▸ ⟨rest, rfl⟩, ?_, ?_, ?_⟩
    · rintro ⟨tail, htail⟩
      obtain rfl : '/' :: tail = rest := by simpa [hpath] using htail
      exact hslash rfl
    · rintro ⟨tail, htail⟩
      obtain rfl : '\\' :: tail = rest := by simpa [hpath] using htail
      exact hback rfl
    · intro c hc
      rw [hpath] at hc
      rcases List.mem_cons.mp hc with rfl | hc
      · decide
      · exact isControl_eq_false_iff.mp (hrest c hc)
  · rintro ⟨⟨rest, hpath⟩, htwo, hback, hplain⟩
    rw [List.singleton_append] at hpath
    rw [← hpath] at htwo hback hplain
    refine ⟨rest, hpath.symm, ?_, ?_, ?_⟩
    · intro h
      obtain ⟨tail, rfl⟩ := List.head?_eq_some_iff.mp h
      exact htwo ⟨tail, rfl⟩
    · intro h
      obtain ⟨tail, rfl⟩ := List.head?_eq_some_iff.mp h
      exact hback ⟨tail, rfl⟩
    · exact fun c hc => isControl_eq_false_iff.mpr (hplain c (List.mem_cons_of_mem _ hc))

instance (path : String) : Decidable (IsSafe path) := decidable_of_iff _ isLocal_iff_isSafe

/-- That the second decoding may be left out makes no difference. -/
theorem decode_eq (cs : List Char) : decode cs = Percent.decodePlus (Percent.decodePlus cs) := by
  unfold decode
  dsimp only
  split
  next h => rw [h, h]
  next => rfl

theorem decode_of_blank {cs : List Char} (h : cs.all isBlank) : decode cs = cs := by
  have hsame : Percent.decodePlus cs = cs := by
    refine Percent.decodePlus_eq_self fun c hc => ⟨?_, ?_⟩
    · rintro rfl
      exact absurd (List.all_eq_true.mp h _ hc) (by decide)
    · rintro rfl
      exact absurd (List.all_eq_true.mp h _ hc) (by decide)
  rw [decode_eq, hsame, hsame]

theorem isLocal_of_blank {cs : List Char} (h : cs.all isBlank) : isLocal cs = false := by
  rw [Bool.eq_false_iff]
  intro hl
  obtain ⟨rest, rfl, _⟩ := isLocal_iff.mp hl
  exact absurd (List.all_eq_true.mp h _ (List.mem_cons_self ..)) (by decide)

/-- The test for white space makes none either. -/
theorem resolve_text (s : String) (fallback : Value) : resolve (.text s) fallback =
    if isLocal (decode s.toList) then .text (String.ofList (decode s.toList)) else fallback := by
  rw [resolve]
  split
  next hblank => rw [decode_of_blank hblank, isLocal_of_blank hblank, if_neg Bool.false_ne_true]
  next => rfl

theorem unquoted_unquoted (s : String) : unquoted (unquoted s) = String.ofList (decode s.toList) := by
  rw [unquoted, unquoted, String.toList_ofList, decode_eq]

theorem unquoted_quoted (s : String) : unquoted (quoted s) = s := by
  rw [unquoted, quoted, String.toList_ofList, Query.writeComponent,
    Percent.decodePlus_encodePlus rfl rfl, String.ofList_toList]

theorem unquoted_eq_self {s : String} (hp : '%' ∉ s.toList) (hs : '+' ∉ s.toList) :
    unquoted s = s := by
  have hsame : Percent.decodePlus s.toList = s.toList :=
    Percent.decodePlus_eq_self fun c hc => ⟨fun h => hp (h ▸ hc), fun h => hs (h ▸ hc)⟩
  rw [unquoted, hsame, String.ofList_toList]

theorem resolve_unquoted (s : String) (fallback : Value) : resolve (.text s) fallback =
    if IsSafe (unquoted (unquoted s)) then .text (unquoted (unquoted s)) else fallback := by
  have hsafe : isLocal (decode s.toList) ↔ IsSafe (String.ofList (decode s.toList)) := by
    rw [← isLocal_iff_isSafe, String.toList_ofList]
  rw [resolve_text, unquoted_unquoted]
  simp only [hsafe]

theorem resolve_of_unquoted {s path : String} (h : unquoted (unquoted s) = path)
    (hsafe : IsSafe path) (fallback : Value) : resolve (.text s) fallback = .text path := by
  rw [resolve_unquoted, h, if_pos hsafe]

/-- A target is decoded exactly twice, whatever it is, and a path comes back from up to two
encodings, as far as decoding it once more leaves it alone. -/
theorem resolve_eq_unquoted (fallback : Value) :
    (∀ asked, resolve asked fallback =
      match asked with
      | .text s =>
        if IsSafe (unquoted (unquoted s)) then .text (unquoted (unquoted s)) else fallback
      | _ => fallback) ∧
    ∀ path, IsSafe path →
      resolve (.text (quoted (quoted path))) fallback = .text path ∧
      ('%' ∉ path.toList → '+' ∉ path.toList →
        resolve (.text (quoted path)) fallback = .text path ∧
        resolve (.text path) fallback = .text path) := by
  constructor
  · intro asked
    cases asked with
    | text s => exact resolve_unquoted s fallback
    | _ => rfl
  · intro path hsafe
    refine ⟨?_, ?_⟩
    · refine resolve_of_unquoted ?_ hsafe fallback
      rw [unquoted_quoted, unquoted_quoted]
    · intro hp hs
      have hself := unquoted_eq_self hp hs
      refine ⟨resolve_of_unquoted ?_ hsafe fallback, resolve_of_unquoted ?_ hsafe fallback⟩
      · rw [unquoted_quoted, hself]
      · rw [hself, hself]

theorem resolve_eq_unquoted_paths :
    quoted (quoted "/a b%26") = "%252Fa%2Bb%252526" ∧ quoted "/é x" = "%2F%C3%A9+x" ∧
    IsSafe "/a b%26" ∧ IsSafe "/é x" ∧
    resolve (.text "%252Fa%2Bb%252526") .null = .text "/a b%26" ∧
    resolve (.text "%2F%C3%A9+x") .null = .text "/é x" ∧
    resolve (.text "/é x") .null = .text "/é x" := by
  have htwice : quoted (quoted "/a b%26") = "%252Fa%2Bb%252526" := by decide
  have honce : quoted "/é x" = "%2F%C3%A9+x" := by decide
  have hmarks : IsSafe "/a b%26" := by decide
  have hplain : IsSafe "/é x" := by decide
  refine ⟨htwice, honce, hmarks, hplain, ?_, ?_⟩
  · rw [← htwice]
    exact ((resolve_eq_unquoted .null).2 _ hmarks).1
  · rw [← honce]
    exact ((resolve_eq_unquoted .null).2 _ hplain).2 (by decide) (by decide)

end Target

end Gatehouse
