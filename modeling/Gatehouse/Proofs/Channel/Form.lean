import Gatehouse.Proofs.Form
import Gatehouse.Proofs.Location.Spelled
import Mathlib.Data.List.Forall2

namespace Gatehouse

namespace Percent

/-- Octets, each written as an escape whose digits may be of either case. -/
inductive Escapes : List UInt8 → List Char → Prop
  | nil : Escapes [] []
  | cons {b : UInt8} {bs : List UInt8} {i j : Char} {rest : List Char}
    (h : Hex.octet? i j = some b) (hrest : Escapes bs rest) :
    Escapes (b :: bs) ('%' :: i :: j :: rest)

theorem value?_of_octet? {i j : Char} {b : UInt8} (h : Hex.octet? i j = some b) :
    Hex.value? i ≠ none ∧ Hex.value? j ≠ none := by
  unfold Hex.octet? at h
  split at h
  next hi hj => simp [hi, hj]
  next => simp at h

theorem Escapes.mem {bs : List UInt8} {cs : List Char} (h : Escapes bs cs) {c : Char}
    (hc : c ∈ cs) : c = '%' ∨ Hex.value? c ≠ none := by
  induction h with
  | nil => simp at hc
  | cons hb _ ih =>
    simp only [List.mem_cons] at hc
    rcases hc with rfl | rfl | rfl | hc
    · exact Or.inl rfl
    · exact Or.inr (value?_of_octet? hb).1
    · exact Or.inr (value?_of_octet? hb).2
    · exact ih hc

theorem Escapes.not_mem {bs : List UInt8} {cs : List Char} (h : Escapes bs cs) {c : Char}
    (hc : c ≠ '%') (hvalue : Hex.value? c = none) : c ∉ cs := by
  intro hm
  rcases h.mem hm with he | he
  · exact hc he
  · exact he hvalue

theorem Escapes.tokens_append {bs : List UInt8} {cs : List Char} (h : Escapes bs cs)
    (rest : List Char) : tokens (cs ++ rest) = bs.map .octet ++ tokens rest := by
  induction h with
  | nil => rfl
  | cons hb _ ih => simp [tokens, hb, ih]

theorem Escapes.length_eq {bs : List UInt8} {cs : List Char} (h : Escapes bs cs) :
    cs.length = 3 * bs.length := by
  induction h with
  | nil => rfl
  | cons _ _ ih =>
    simp only [List.length_cons, ih]
    omega

end Percent

namespace Query

/-- The ways in which a name or a value may be encoded: a character stands for itself unless it has
a meaning of its own, a plus for a space, and escapes for the octets of any character. -/
inductive Spells : List Char → List Char → Prop
  | nil : Spells [] []
  | plain {c : Char} {cs spelled : List Char} (h : c ∉ ['%', '+', '&', '='])
    (hrest : Spells cs spelled) : Spells (c :: cs) (c :: spelled)
  | plus {cs spelled : List Char} (hrest : Spells cs spelled) : Spells (' ' :: cs) ('+' :: spelled)
  | escaped {c : Char} {cs escapes spelled : List Char}
    (h : Percent.Escapes (String.utf8EncodeChar c) escapes) (hrest : Spells cs spelled) :
    Spells (c :: cs) (escapes ++ spelled)

/-- The ways in which a pair may be encoded. -/
inductive Writes : String × String → List Char → Prop
  | mk {name value : String} {n v : List Char} (hname : Spells name.toList n)
    (hvalue : Spells value.toList v) : Writes (name, value) (n ++ '=' :: v)

theorem Spells.not_mem {cs spelled : List Char} (h : Spells cs spelled) :
    '&' ∉ spelled ∧ '=' ∉ spelled := by
  induction h with
  | nil => simp
  | plain hc _ ih =>
    simp only [List.mem_cons, List.not_mem_nil, or_false, not_or] at hc
    simp [ih, Ne.symm hc.2.2.1, Ne.symm hc.2.2.2]
  | plus _ ih => simp [ih]
  | escaped he _ ih =>
    have hand := he.not_mem (c := '&') (by decide) (by decide)
    have hequals := he.not_mem (c := '=') (by decide) (by decide)
    simp [ih, hand, hequals]

theorem Spells.pieces {cs spelled : List Char} (h : Spells cs spelled) :
    Percent.pieces (spelled.map Percent.plusToSpace) = cs.map .char := by
  induction h with
  | nil => rfl
  | @plain c _ _ hc _ ih =>
    simp only [List.mem_cons, List.not_mem_nil, or_false, not_or] at hc
    have hsame : Percent.plusToSpace c = c := if_neg hc.2.1
    rw [List.map_cons, hsame, Percent.pieces, Percent.tokens_cons_of_ne hc.1,
      Percent.piecesFrom_plain]
    exact congrArg _ ih
  | plus _ ih =>
    have hspace : Percent.plusToSpace '+' = ' ' := rfl
    rw [List.map_cons, hspace, Percent.pieces, Percent.tokens_cons_of_ne (by decide),
      Percent.piecesFrom_plain]
    exact congrArg _ ih
  | escaped he _ ih =>
    have hplus := he.not_mem (c := '+') (by decide) (by decide)
    rw [List.map_append, Percent.map_plusToSpace_of_not_mem hplus, Percent.pieces,
      he.tokens_append, Percent.piecesFrom_encodeChar_append]
    exact congrArg _ ih

/-- Nothing gets shorter by encoding it. -/
theorem Spells.length_le {cs spelled : List Char} (h : Spells cs spelled) :
    cs.length ≤ spelled.length := by
  induction h with
  | nil => exact Nat.le_refl _
  | plain _ _ ih => exact Nat.succ_le_succ ih
  | plus _ ih => exact Nat.succ_le_succ ih
  | @escaped c _ _ _ he _ ih =>
    have hoctets : 0 < (String.utf8EncodeChar c).length := List.length_pos_iff.mpr (by simp)
    rw [List.length_cons, List.length_append, he.length_eq]
    omega

theorem component_of_spells {s : String} {spelled : List Char} (h : Spells s.toList spelled) :
    component spelled = s := by
  rw [component, Percent.decodeKeeping, h.pieces, List.flatMap_map]
  simp [Percent.restore]

theorem Writes.pair {p : String × String} {piece : List Char} (h : Writes p piece) :
    pair piece = p := by
  obtain ⟨hname, hvalue⟩ := h
  rw [Query.pair, Text.cutAt_append_sep hname.not_mem.2]
  simp [component_of_spells hname, component_of_spells hvalue]

theorem Writes.piece {p : String × String} {piece : List Char} (h : Writes p piece) :
    '&' ∉ piece ∧ piece ≠ [] := by
  obtain ⟨hname, hvalue⟩ := h
  have hand : '&' ≠ '=' := by decide
  simp [hname.not_mem.1, hvalue.not_mem.1, hand]

/-- Pairs are read back however they were encoded. -/
theorem read_of_writes {pairs : List (String × String)} {pieces : List (List Char)}
    (h : List.Forall₂ Writes pairs pieces) : read (List.intercalate ['&'] pieces) = pairs := by
  have hpieces : (∀ piece ∈ pieces, '&' ∉ piece ∧ piece ≠ []) ∧ pieces.map pair = pairs := by
    induction h with
    | nil => simp
    | cons hp _ ih => simpa [hp.pair, hp.piece] using ih
  obtain ⟨hpiece, hmap⟩ := hpieces
  by_cases hne : pieces = []
  · subst hne
    exact hmap
  · rw [read, Text.splitAt_intercalate hne fun piece hp => (hpiece piece hp).1,
      List.filter_eq_self.mpr, hmap]
    intro piece hp
    simpa using (hpiece piece hp).2

theorem escapes_flatMap_escape (bs : List UInt8) :
    Percent.Escapes bs (bs.flatMap Percent.escape) := by
  induction bs with
  | nil => exact .nil
  | cons b bs ih => exact .cons (Percent.octet?_upper b) ih

/-- The usual encoding is one of the ways. -/
theorem spells_encodePlus (cs : List Char) :
    Spells cs (Percent.encodePlus (fun _ => false) cs) := by
  induction cs with
  | nil => exact .nil
  | cons c cs ih =>
    rw [Percent.encodePlus, List.flatMap_cons, ← Percent.encodePlus]
    split
    next hspace =>
      subst hspace
      exact .plus ih
    next =>
      unfold Percent.encodeChar
      split
      next hkept =>
        refine .plain ?_ ih
        simp only [List.mem_cons, List.not_mem_nil, or_false]
        rintro (rfl | rfl | rfl | rfl) <;> simp [Percent.isUnreserved] at hkept
      next => exact .escaped (escapes_flatMap_escape _) ih

theorem writes_writePair (p : String × String) : Writes p (writePair p) :=
  .mk (spells_encodePlus _) (spells_encodePlus _)

end Query

/-- The body of a login form that asks for no target, as it is usually encoded. -/
def loginBody (username password : String) : String :=
  String.ofList (Query.write
    [("session[username]", username), ("session[password]", password)])

/-- The fields of the login form with a pair filled in, in either order. -/
def IsLoginFields (username password : String) (fields : List (String × String)) : Prop :=
  fields = [("session[username]", username), ("session[password]", password)] ∨
    fields = [("session[password]", password), ("session[username]", username)]

/-- A request sends a pair as a form, and nothing else. -/
structure Request.PostsForm (r : Request) (username password : String) : Prop where
  query : r.query = ""
  isForm : r.isForm = true
  body : ∃ fields pieces, IsLoginFields username password fields ∧
    List.Forall₂ Query.Writes fields pieces ∧ r.body.toList = List.intercalate ['&'] pieces

namespace Request

variable {request : Request} {username password : String}

namespace PostsForm

theorem formPairs (h : request.PostsForm username password) :
    IsLoginFields username password request.formPairs := by
  obtain ⟨fields, pieces, hfields, hpieces, hbody⟩ := h.body
  rwa [Request.formPairs, if_pos h.isForm, hbody, Query.read_of_writes hpieces]

theorem target? (h : request.PostsForm username password) : request.target? = none := by
  rw [Request.target?, queryTarget?_of_query h.query]
  rcases h.formPairs with hpairs | hpairs
  · rw [hpairs]
    rfl
  · rw [hpairs]
    rfl

theorem payload (h : request.PostsForm username password) (asked : Value) :
    ∃ payload, request.payload = .ok payload ∧
      Submission.ofPayload payload asked = .ok ⟨.text username, .text password, asked⟩ := by
  have husername : bracketed? "session[username]" = some "username" := by decide +kernel
  have hpassword : bracketed? "session[password]" = some "password" := by decide +kernel
  refine ⟨request.formPayload, payload_of_isForm h.isForm, ?_⟩
  rcases h.formPairs with hpairs | hpairs
  · have hfields : request.formFields = [("username", username), ("password", password)] := by
      rw [Request.formFields, hpairs]
      simp [firsts, husername, hpassword]
    rw [formPayload, hfields]
    rfl
  · have hfields : request.formFields = [("password", password), ("username", username)] := by
      rw [Request.formFields, hpairs]
      simp [firsts, husername, hpassword]
    rw [formPayload, hfields]
    rfl

end PostsForm

theorem postsForm_of_loginBody (hquery : request.query = "") (hform : request.isForm = true)
    (hbody : request.body = loginBody username password) :
    request.PostsForm username password where
  query := hquery
  isForm := hform
  body := by
    refine ⟨_, _, Or.inl rfl, ?_, by rw [hbody, loginBody, String.toList_ofList, Query.write]⟩
    exact .cons (Query.writes_writePair _) (.cons (Query.writes_writePair _) .nil)

end Request

-- A form is at least as long as the password in it.

theorem Utf8.length_le_encode (cs : List Char) : cs.length ≤ (encode cs).length := by
  induction cs with
  | nil => simp
  | cons c cs ih =>
    have hpos : 0 < (String.utf8EncodeChar c).length := List.length_pos_iff.mpr (by simp)
    rw [encode, List.flatMap_cons, ← encode, List.length_append, List.length_cons]
    omega

theorem Request.length_lt_octets {request : Request} {username password : String}
    (hbody : request.body = loginBody username password) :
    password.toList.length < request.octets.length := by
  have hpassword : password.toList.length ≤ (Query.writeComponent password).length :=
    (Query.spells_encodePlus _).length_le
  have hwhole : (Query.writeComponent password).length < request.body.toList.length := by
    rw [hbody, loginBody, String.toList_ofList, Query.write]
    simp [Query.writePair, List.intercalate]
    omega
  have hoctets : request.body.toList.length ≤ request.octets.length := Utf8.length_le_encode _
  omega

end Gatehouse
