import Gatehouse.Http.Endpoint

namespace Gatehouse

namespace Place

variable {path : List Char} {place : Place} {e : Endpoint}

theorem at?_path (e : Endpoint) :
    Place.at? e.path.toList = some (.endpoints (Endpoint.atPath e.path)) := by
  cases e <;> decide

theorem path_of_at? {found : List Endpoint} (h : Place.at? path = some (.endpoints found))
    (he : e ∈ found) : path = e.path.toList := by
  unfold Place.at? at h
  split at h
  next =>
    split at h
    next => simp at h
    next => simp at h
  next =>
    split at h
    next => simp at h
    next =>
      obtain rfl : Endpoint.atPath (String.ofList path) = found := by simpa using h
      have hpath : e.path = String.ofList path := by
        simpa using (List.mem_filter.mp he).2
      rw [hpath, String.toList_ofList]

end Place

namespace Route

variable {asked : Asked} {path : String} {e : Endpoint}

theorem elsewhere_ne_endpoint (asked : Asked) (path : List Char) (e : Endpoint) :
    elsewhere asked path ≠ .endpoint e := by
  unfold elsewhere
  dsimp only
  split <;> simp

theorem atPlace_eq_endpoint {place : Place} (h : atPlace asked place = .endpoint e) :
    ∃ found, place = .endpoints found ∧ e ∈ found ∧ asked.lasting = false ∧
      asked.method ∈ e.allMethods ∧ asked.method ≠ .options := by
  unfold atPlace at h
  dsimp only at h
  split at h
  next => split at h <;> simp at h
  next hlasting =>
    split at h
    next methods answered hfind =>
      have hallowed := List.find?_some hfind
      have hmem := List.mem_of_find?_eq_some hfind
      unfold offered at h
      split at h
      next other =>
        split at h
        next => simp at h
        next hmethod =>
          obtain rfl := Route.endpoint.inj h
          cases place with
          | file => simp [Place.offers] at hmem
          | endpoints found =>
            obtain ⟨e', he', hoffer⟩ := List.mem_map.mp hmem
            obtain ⟨rfl, hsome⟩ := Prod.mk.inj hoffer
            obtain rfl := Option.some.inj hsome
            have hanswered : asked.method ∈ e'.methods asked.options := by simpa using hallowed
            exact ⟨found, rfl, he', by simpa using hlasting, (List.mem_filter.mp hanswered).1,
              hmethod⟩
      next => split at h <;> simp at h
    next => simp at h

theorem atPlace_path (hlasting : asked.lasting = false) (hmethod : asked.method ∈ e.allMethods)
    (hne : asked.method ≠ .options) :
    atPlace asked (.endpoints (Endpoint.atPath e.path)) = .endpoint e := by
  obtain ⟨method, lasting, options⟩ := asked
  obtain rfl : lasting = false := hlasting
  have hcases : method = .get ∨ method = .head ∨ method = .post := by
    cases e <;> simp [Endpoint.allMethods] at hmethod hne ⊢ <;> grind
  cases e <;> rcases hcases with rfl | rfl | rfl <;> simp [Endpoint.allMethods] at hmethod <;>
    cases options <;> decide

/-- What stands at the path of an endpoint decides. -/
theorem of_path (hne : path ≠ "") (hpath : normal path.toList = e.path.toList) :
    Route.of asked path = atPlace asked (.endpoints (Endpoint.atPath e.path)) := by
  have hsome : path.isEmpty = false := by simpa using hne
  unfold Route.of
  simp only [hsome, Bool.false_eq_true, if_false, hpath, Place.at?_path]

/-- A request that asks for no lasting connection gets to an endpoint by its path, with any number of
slashes in front, and one of its methods. -/
theorem of_eq_endpoint_iff : Route.of asked path = .endpoint e ↔
    path ≠ "" ∧ asked.lasting = false ∧ normal path.toList = e.path.toList ∧
      asked.method ∈ e.allMethods ∧ asked.method ≠ .options := by
  by_cases hempty : path = ""
  · subst hempty
    have hnone : ("" : String).isEmpty = true := rfl
    simp only [ne_eq, not_true_eq_false, false_and, iff_false]
    unfold Route.of
    rw [if_pos hnone]
    split <;> simp
  constructor
  · intro h
    have hsome : path.isEmpty = false := by simpa using hempty
    unfold Route.of at h
    simp only [hsome, Bool.false_eq_true, if_false] at h
    split at h
    next place hat =>
      obtain ⟨found, rfl, he, hlasting, hmethod, hne⟩ := atPlace_eq_endpoint h
      exact ⟨hempty, hlasting, Place.path_of_at? hat he, hmethod, hne⟩
    next => exact absurd h (elsewhere_ne_endpoint _ _ _)
  · rintro ⟨_, hlasting, hpath, hmethod, hne⟩
    rw [of_path hempty hpath]
    exact atPlace_path hlasting hmethod hne

end Route

end Gatehouse
