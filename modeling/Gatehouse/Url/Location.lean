import Gatehouse.Url.Authority
import Gatehouse.Url.Parts

namespace Gatehouse.Location

/-- Marks kept in every part of a location. The percent sign is not among them. -/
def isMark (c : Char) : Bool := "!$&'()*+,/:;=@".toList.contains c

/-- Where what is already escaped has to stay as it is, the percent sign is kept too. -/
def isKept (c : Char) : Bool := isMark c || c = '%'

def isKeptInQuery (c : Char) : Bool := isKept c || c = '?'

def isKeptInFragment (c : Char) : Bool := isKeptInQuery c || c = '#'

/-- The parts of a location that has a usable authority or none. -/
def read (cs : List Char) : Except LocationFlaw Url.Parts :=
  let parts := Url.Parts.split cs
  (Authority.check parts.authority).map fun _ => parts

/-- A location in the characters that a header may hold. -/
def encode (cs : List Char) : Except LocationFlaw (List Char) := do
  let parts ← read cs
  let authority ← (Authority.read parts.authority).encode
  return Url.Parts.join
    { scheme := parts.scheme
      authority
      path := Percent.encode isKept parts.path
      query := Percent.encode isKeptInQuery parts.query
      fragment := Percent.encode isKeptInFragment parts.fragment }

def isNewline (c : Char) : Bool := c = '\n' || c = '\r'

/-- Marks kept in the value of a query that a location carries. -/
def isKeptInValue (c : Char) : Bool :=
  "!$'()*,/:;?@".toList.contains c

/-- A path with one query field. -/
def withField (path name : String) (value : List Char) : List Char :=
  path.toList ++ '?' :: name.toList ++ '=' :: Percent.encodePlus isKeptInValue value

/-- A location without an authority can always be encoded. -/
theorem encode_of_noAuthority {cs : List Char} (h : (Url.Parts.split cs).authority = []) :
    encode cs = .ok (Url.Parts.join
      { scheme := (Url.Parts.split cs).scheme
        authority := []
        path := Percent.encode isKept (Url.Parts.split cs).path
        query := Percent.encode isKeptInQuery (Url.Parts.split cs).query
        fragment := Percent.encode isKeptInFragment (Url.Parts.split cs).fragment }) := by
  have hread : read cs = .ok (Url.Parts.split cs) := by
    simp [read, h, Authority.check_nil, Except.map]
  simp only [encode, hread, h, Authority.encode_read_nil, bind, Except.bind, pure, Except.pure]

example : (encode "////x".toList).toOption = some "//x".toList ∧
    (encode "https://X:0443".toList).toOption = some "https://x:443".toList := by
  decide +kernel

end Gatehouse.Location
