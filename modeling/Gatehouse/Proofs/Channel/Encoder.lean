import Gatehouse.Proofs.Channel.Form

namespace Gatehouse

structure Encoder where
  encode : String → List Char
  spells : ∀ s, Query.Spells s.toList (encode s)

namespace Encoder

/-- The encoder that keeps nothing but unreserved characters, and writes a plus for a space. -/
def usual : Encoder := ⟨Query.writeComponent, fun s => Query.spells_encodePlus s.toList⟩

variable (encoder : Encoder)

def writePair (p : String × String) : List Char := encoder.encode p.1 ++ '=' :: encoder.encode p.2

def write (pairs : List (String × String)) : String :=
  String.ofList (List.intercalate ['&'] (pairs.map encoder.writePair))

theorem read_write (pairs : List (String × String)) :
    Query.read (encoder.write pairs).toList = pairs := by
  rw [write, String.toList_ofList]
  apply Query.read_of_writes
  rw [List.forall₂_map_right_iff, List.forall₂_same]
  exact fun p _ => .mk (encoder.spells p.1) (encoder.spells p.2)

end Encoder

end Gatehouse
