import Gatehouse.Text.Folded
import Gatehouse.Text.Punycode
import Gatehouse.Url.Flaw
import Gatehouse.Url.HostName.Table

namespace Gatehouse.HostName

/-- Four characters stand between labels. -/
def isDot (c : Char) : Bool := c = '.' || c = '\u3002' || c = '\uFF0E' || c = '\uFF61'

def isIn (ranges : List (Nat × Nat)) (c : Char) : Bool :=
  ranges.any fun (first, last) => first ≤ c.toNat && c.toNat ≤ last

/-- A label has at least one character and less than 64. -/
def sized (label : List Char) : Except HostFlaw (List Char) :=
  if label.isEmpty || 64 ≤ label.length then .error .emptyOrLong else .ok label

/-- A label that is written to the left is so from its start to its end. -/
def checkDirection (label : List Char) : Except HostFlaw Unit :=
  if !label.any (isIn leftward) then .ok ()
  else if label.any (isIn rightward) then .error .mixed
  else if (label.head?.map (isIn leftward)).getD false &&
      (label.getLast?.map (isIn leftward)).getD false then .ok ()
  else .error .openEnds

/-- What stands in front of an encoded label. -/
def encodedMark : List Char := "xn--".toList

/-- A folded label, encoded if need be. -/
def encodeFolded (label : List Char) : Except HostFlaw (List Char) :=
  if label.all Punycode.isPlain then sized label
  else if encodedMark.isPrefixOf label then .error .encoded
  else sized (encodedMark ++ Punycode.encode label)

def encodeLabel (label : List Char) : Except HostFlaw (List Char) :=
  if label.all Punycode.isPlain then sized label
  else
    let folded := Folded.ofChars label
    match folded.find? (isIn forbidden) with
    | some c => .error (.forbidden c)
    | none => (checkDirection folded).bind fun _ => encodeFolded folded

def encodeLabels : List (List Char) → Except HostFlaw (List (List Char))
  | [] => .ok []
  | label :: rest => do
    let label ← encodeLabel label
    let rest ← encodeLabels rest
    return label :: rest

/-- The labels of a name in the first 128 characters. Only the last of them may be empty. -/
def checkPlain : List (List Char) → Except HostFlaw Unit
  | [] => .ok ()
  | [last] => if last.length < 64 then .ok () else .error .long
  | label :: rest => (sized label).bind fun _ => checkPlain rest

/-- A name in the first 128 characters stays as it is. -/
def encode (name : List Char) : Except HostFlaw (List Char) :=
  if name.all Punycode.isPlain then (checkPlain (Text.splitAt '.' name)).map fun _ => name
  else
    let labels := Text.splitAt '.' (name.map fun c => if isDot c then '.' else c)
    if labels.getLast? = some [] then
      (encodeLabels labels.dropLast).map fun ls => List.intercalate ['.'] ls ++ ['.']
    else (encodeLabels labels).map (List.intercalate ['.'])

end Gatehouse.HostName
