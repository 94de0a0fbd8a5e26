import Gatehouse.Text.Cut
import Gatehouse.Url.Percent

namespace Gatehouse.Query

/-- A name or a value as it was before encoding. -/
def component (cs : List Char) : String :=
  String.ofList (Percent.decodeKeeping (cs.map Percent.plusToSpace))

/-- A piece without an equals sign is a name with an empty value. -/
def pair (piece : List Char) : String × String :=
  let (name, value) := Text.cutAt '=' piece
  (component name, component (value.getD []))

/-- All pairs in order. Empty pieces are skipped. -/
def read (cs : List Char) : List (String × String) :=
  ((Text.splitAt '&' cs).filter fun piece => !piece.isEmpty).map pair

/-- The value of the first pair with a name. -/
def first? (name : String) (pairs : List (String × String)) : Option String :=
  (pairs.find? fun p => p.1 = name).map (·.2)

/-- Nothing but the unreserved characters is kept, and a space is a plus. -/
def writeComponent (s : String) : List Char := Percent.encodePlus (fun _ => false) s.toList

def writePair (p : String × String) : List Char := writeComponent p.1 ++ '=' :: writeComponent p.2

def write (pairs : List (String × String)) : List Char :=
  List.intercalate ['&'] (pairs.map writePair)

end Gatehouse.Query
