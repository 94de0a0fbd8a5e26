import Gatehouse.Http.Request
import Gatehouse.Proofs.Location.Local
import Gatehouse.Proofs.Location.Spelled

namespace Gatehouse

namespace Location

variable {cs location : List Char}

theorem IsOnSite.isLocal (h : IsOnSite cs) : Target.isLocal cs := by
  obtain ⟨rest, rfl, hslash, hback⟩ := h.starts
  exact Target.isLocal_iff.mpr ⟨rest, rfl, hslash, hback, fun c hc =>
    isControl_of_isGraphic (h.graphic c (List.mem_cons_of_mem _ hc))⟩

theorem cutAt_append_after {mark : Char} {front : List Char} (h : mark ∉ front)
    (cs : List Char) :
    (Text.cutAt mark (front ++ Url.Parts.after mark cs)).1 = front ∧
      (Text.cutAt mark (front ++ Url.Parts.after mark cs)).2.getD [] = cs := by
  cases cs with
  | nil =>
    have hnone : front ++ Url.Parts.after mark [] = front := List.append_nil front
    rw [hnone, Text.cutAt_of_not_mem h]
    exact ⟨rfl, rfl⟩
  | cons c cs =>
    have hmark : Url.Parts.after mark (c :: cs) = mark :: c :: cs := rfl
    rw [hmark, Text.cutAt_append_sep h]
    exact ⟨rfl, rfl⟩

theorem not_mem_encode {keep : Char → Bool} {mark : Char} (hu : Percent.isUnreserved mark = false)
    (hk : keep mark = false) (hp : mark ≠ '%') : mark ∉ Percent.encode keep cs := by
  intro h
  rcases Percent.mem_encode h with h | h | h
  · simp [hu] at h
  · simp [hk] at h
  · exact hp h

/-- A local path is made of the same parts when it is sent, each of them encoded. -/
theorem split_of_encode (h : Target.isLocal cs) (he : encode cs = .ok location) :
    Url.Parts.split location =
      { scheme := []
        authority := []
        path := Percent.encode isKept (Url.Parts.split cs).path
        query := Percent.encode isKeptInQuery (Url.Parts.split cs).query
        fragment := Percent.encode isKeptInFragment (Url.Parts.split cs).fragment } := by
  obtain ⟨sent, hsent, hsite⟩ := isOnSite_of_isLocal h
  obtain rfl := Except.ok.inj (hsent.symm.trans he)
  obtain rfl := Except.ok.inj ((encode_of_isLocal h).symm.trans he)
  have hquestion : '?' ∉ Percent.encode isKept (Url.Parts.split cs).path :=
    not_mem_encode (by decide) (by decide) (by decide)
  have hhash : '#' ∉ Percent.encode isKept (Url.Parts.split cs).path ++
      Url.Parts.after '?' (Percent.encode isKeptInQuery (Url.Parts.split cs).query) := by
    intro hm
    rcases List.mem_append.mp hm with hm | hm
    · exact not_mem_encode (by decide) (by decide) (by decide) hm
    · rcases mem_after hm with hm | hm
      · exact absurd hm (by decide)
      · exact not_mem_encode (by decide) (by decide) (by decide) hm
  obtain ⟨hfront, hfragment⟩ := cutAt_append_after hhash
    (Percent.encode isKeptInFragment (Url.Parts.split cs).fragment)
  obtain ⟨hpath, hquery⟩ := cutAt_append_after hquestion
    (Percent.encode isKeptInQuery (Url.Parts.split cs).query)
  rw [split_of_isLocal hsite.isLocal, hfront, hfragment, hpath, hquery]

def targetQuery (place : List Char) : List Char :=
  Request.targetName.toList ++ '=' :: Percent.encodePlus isKeptInValue place

def toLogin (place : List Char) : List Char :=
  withField Endpoint.loginForm.path Request.targetName place

theorem toLogin_eq (place : List Char) :
    toLogin place = Endpoint.loginForm.path.toList ++ '?' :: targetQuery place := by
  rw [toLogin, withField, List.append_assoc]
  rfl

theorem isKeptInQuery_of_mem_targetQuery {place : List Char} {c : Char}
    (h : c ∈ targetQuery place) : (Percent.isUnreserved c ∨ isKeptInQuery c) ∧ c ≠ '&' := by
  have hname : Request.targetName.toList.all Percent.isUnreserved := by decide
  have hvalue : "!$'()*,/:;?@".toList.all fun c => isKeptInQuery c && c ≠ '&' := by decide
  have hunreserved : ∀ c, Percent.isUnreserved c → c ≠ '&' := by
    rintro c hc rfl
    exact absurd hc (by decide)
  rcases List.mem_append.mp h with h | h
  · have hc := List.all_eq_true.mp hname c h
    exact ⟨Or.inl hc, hunreserved c hc⟩
  · rcases List.mem_cons.mp h with rfl | h
    · decide
    · rcases Percent.mem_encodePlus h with h | h | rfl | rfl
      · exact ⟨Or.inl h, hunreserved c h⟩
      · have hc := List.all_eq_true.mp hvalue c (by simpa [isKeptInValue] using h)
        simp only [Bool.and_eq_true, decide_eq_true_eq] at hc
        exact ⟨Or.inr hc.1, hc.2⟩
      · decide
      · decide

theorem isLocal_toLogin (place : List Char) : Target.isLocal (toLogin place) :=
  isLocal_withField (by decide) (by decide) place

/-- The place that was asked for ends no part of the way to the login page. -/
theorem split_toLogin (place : List Char) : Url.Parts.split (toLogin place) =
    { scheme := []
      authority := []
      path := Endpoint.loginForm.path.toList
      query := targetQuery place
      fragment := [] } := by
  have hhash : '#' ∉ toLogin place := by
    rw [toLogin_eq, List.mem_append, List.mem_cons]
    rintro (hm | hm | hm)
    · exact absurd hm (by decide)
    · exact absurd hm (by decide)
    · exact absurd (isKeptInQuery_of_mem_targetQuery hm).1 (by decide)
  rw [split_of_isLocal (isLocal_toLogin place), Text.cutAt_of_not_mem hhash]
  dsimp only
  rw [toLogin_eq, Text.cutAt_append_sep (by decide)]
  rfl

/-- The way to the login page goes into a header as it is. -/
theorem encode_toLogin (place : List Char) : encode (toLogin place) = .ok (toLogin place) := by
  have hquery : Percent.encode isKeptInQuery (targetQuery place) = targetQuery place :=
    Percent.encode_eq_self fun c hc => (isKeptInQuery_of_mem_targetQuery hc).1
  have hpath : Percent.encode isKept Endpoint.loginForm.path.toList =
      Endpoint.loginForm.path.toList := by
    decide
  have hne : (targetQuery place).isEmpty = false := rfl
  rw [encode_of_isLocal (isLocal_toLogin place), split_toLogin, toLogin_eq]
  simp only [hquery, hpath]
  simp [Url.Parts.after, hne, Percent.encode]

theorem first?_targetQuery (place : List Char) :
    Query.first? Request.targetName (Query.read (targetQuery place)) =
      some (String.ofList place) := by
  have hequals : '=' ∉ Request.targetName.toList := by decide
  have hname : Query.component Request.targetName.toList = Request.targetName := by decide
  have hvalue : Query.component (Percent.encodePlus isKeptInValue place) = String.ofList place :=
    Query.component_encodePlus (by decide) (by decide) place
  have hpair : Query.pair (targetQuery place) = (Request.targetName, String.ofList place) := by
    rw [Query.pair, targetQuery, Text.cutAt_append_sep hequals]
    simp only [hname, Option.getD_some, hvalue]
  have hand : '&' ∉ targetQuery place := fun hm => (isKeptInQuery_of_mem_targetQuery hm).2 rfl
  have hread : Query.read (targetQuery place) = [(Request.targetName, String.ofList place)] := by
    rw [Query.read, Text.splitAt_of_not_mem hand, List.filter_cons_of_pos rfl]
    simp only [List.filter_nil, List.map_cons, List.map_nil, hpair]
  rw [hread, Query.first?]
  simp

end Location

end Gatehouse
