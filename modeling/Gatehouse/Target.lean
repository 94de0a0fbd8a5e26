import Gatehouse.Text.Blank
import Gatehouse.Url.Percent
import Gatehouse.Value.Basic

namespace Gatehouse.Target

/-- A control below the space, or the delete character. Browsers drop some of them from
locations. -/
def isControl (c : Char) : Bool := c.toNat < 0x20 || c = '\x7f'

/-- A path that stays on this site: it starts with a slash, which no slash or backslash follows, and
has no control in it. -/
def isLocal : List Char → Bool
  | '/' :: '/' :: _ => false
  | '/' :: '\\' :: _ => false
  | '/' :: rest => !rest.any isControl
  | _ => false

/-- Targets may come encoded twice. The second decoding is left out when the first changed
nothing. -/
def decode (cs : List Char) : List Char :=
  let once := Percent.decodePlus cs
  if once = cs then once else Percent.decodePlus once

/-- The target that was asked for, decoded, if it is a local path. -/
def resolve (asked fallback : Value) : Value :=
  match asked with
  | .text s =>
    if s.toList.all isBlank then fallback
    else
      let path := decode s.toList
      if isLocal path then .text (String.ofList path) else fallback
  | _ => fallback

end Gatehouse.Target
