import Gatehouse.Proofs.Channel.Form
import Gatehouse.Proofs.Channel.Header
import Gatehouse.Proofs.Channel.Json
import Gatehouse.Proofs.Secrecy

namespace Gatehouse

/-- The object that submits a pair, with its members in either order. -/
def IsLoginObject (username password : String) (v : Datum) : Prop :=
  ∃ fields, (fields = [("username", .text username), ("password", .text password)] ∨
    fields = [("password", .text password), ("username", .text username)]) ∧
      v = .ofFields [(formKey, .ofFields fields)]

/-- A request sends a pair as an object in JSON. -/
structure Request.PostsJson (r : Request) (username password : String) : Prop where
  query : r.query = ""
  isJson : r.isJson = true
  body : ∃ v lead cs trail, IsLoginObject username password v ∧ Json.Writes Json.depthLimit v cs ∧
    lead.all Json.isSpace ∧ trail.all Json.isSpace ∧ r.body.toList = lead ++ (cs ++ trail)

namespace Request

variable {request : Request} {username password : String}

theorem isForm_of_isJson (h : request.isJson = true) : request.isForm = false := by
  cases hf : request.isForm with
  | false => rfl
  | true => rw [isJson_of_isForm hf] at h; simp at h

theorem isParted_of_isJson (h : request.isJson = true) : request.isParted = false := by
  cases hp : request.isParted with
  | false => rfl
  | true =>
    have hmedia : request.mediaType = partedType := by simpa [isParted] using hp
    rw [isJson, hmedia] at h
    exact absurd h (by decide +kernel)

theorem formPairs_of_isJson (h : request.isJson = true) : request.formPairs = [] := by
  simp [formPairs, isForm_of_isJson h, isParted_of_isJson h]

theorem PostsJson.target? (h : request.PostsJson username password) : request.target? = none := by
  rw [Request.target?, queryTarget?_of_query h.query, formPairs_of_isJson h.isJson]
  rfl

theorem PostsJson.payload (h : request.PostsJson username password) (asked : Value) :
    ∃ payload, request.payload = .ok payload ∧
      Submission.ofPayload payload asked = .ok ⟨.text username, .text password, asked⟩ := by
  obtain ⟨v, lead, cs, trail, ⟨fields, hfields, rfl⟩, hwrites, hlead, htrail, hbody⟩ := h.body
  refine ⟨.ofFields [(formKey, .ofFields fields)], ?_, ?_⟩
  · rw [Request.payload, if_pos h.isJson, octets, hbody]
    exact Json.ofOctets_of_writes hwrites hlead htrail
  · rcases hfields with rfl | rfl
    · rfl
    · rfl

/-- The object that submits a pair. -/
def loginObject (username password : String) : Value :=
  .ofFields [(formKey, .ofFields [("username", .text username), ("password", .text password)])]

theorem writes_loginObject (depth : Nat) (username password : String) : Json.Writes (depth + 2)
    (.ofValue (loginObject username password)) (Json.write (loginObject username password)) := by
  have hquotes : ∀ s : String, Json.Quotes s.toList (s.toList.flatMap Json.quoteChar) :=
    fun s => Json.quotes_quoteChars s.toList
  have htext : ∀ s : String, Json.Writes depth (.text s) (Json.quote s.toList) :=
    fun s => .text (hquotes s)
  have hnone : ([] : List Char).all Json.isSpace = true := rfl
  have hmember : ∀ (name : String) {v : Datum} {depth : Nat} {cs : List Char},
      Json.Writes depth v cs → Json.WritesMember depth (.text name, v) _ :=
    fun name _ _ _ h => .mk (hquotes name) hnone hnone h
  have hfields := Json.Writes.members hnone
    (.more (hmember "username" (htext username)) hnone hnone
      (.last (hmember "password" (htext password)) hnone))
  have hobject := Json.Writes.members hnone (.last (hmember formKey hfields) hnone)
  refine cast (congrArg (Json.Writes (depth + 2) (.ofValue (loginObject username password))) ?_)
    hobject
  simp [loginObject, Value.ofFields, Json.write, Json.writeEntries, Json.writeKey, Json.quote]

theorem postsJson_of_write (hquery : request.query = "") (hjson : request.isJson = true)
    (hbody : request.body = String.ofList (Json.write (loginObject username password))) :
    request.PostsJson username password where
  query := hquery
  isJson := hjson
  body := ⟨.ofValue (loginObject username password), [], Json.write (loginObject username password), [],
    ⟨_, Or.inl rfl, rfl⟩, writes_loginObject _ username password, rfl, rfl,
    by rw [hbody, String.toList_ofList]; simp⟩

end Request

namespace Site

variable {site : Site} {request : Request} {username password : String}

theorem tooLong_of_isJson (hu : site.settings.IsUsual) (h : request.isJson = true) :
    site.tooLong request = .ok false := by
  rw [tooLong_of_isUsual hu, Request.isForm_of_isJson h, Request.hasLargeParts,
    Request.isParted_of_isJson h]
  rfl

theorem submits_of_postsForm (hu : site.settings.IsUsual)
    (h : request.PostsForm username password) (hfits : request.octets.length ≤ mostOctets)
    (hroute : Route.of (site.asked request) request.path = .endpoint .submitLogin) :
    site.Submits request (.text username) (.text password) := by
  obtain ⟨payload, hpayload, hread⟩ := h.payload .null
  refine ⟨hroute, ?_, payload, .null, hpayload, hread⟩
  rw [tooLong_of_isForm hu h.isForm, decide_eq_false (by omega)]

theorem submits_of_postsJson (hu : site.settings.IsUsual) (h : request.PostsJson username password)
    (hroute : Route.of (site.asked request) request.path = .endpoint .submitLogin) :
    site.Submits request (.text username) (.text password) := by
  obtain ⟨payload, hpayload, hread⟩ := h.payload .null
  exact ⟨hroute, tooLong_of_isJson hu h.isJson, payload, .null, hpayload, hread⟩

end Site

end Gatehouse
