import Gatehouse.Value.Printer

namespace Gatehouse

inductive HostFlaw where
  | emptyOrLong
  | long
  /-- This character may not stand in a name. -/
  | forbidden (c : Char)
  /-- Some characters are written to the left and some to the right. -/
  | mixed
  /-- A name that is written to the left does not start or does not end with it. -/
  | openEnds
  /-- What is to be encoded already looks as if it were. -/
  | encoded
  deriving DecidableEq, Repr

namespace HostFlaw

def cause : HostFlaw → String
  | .emptyOrLong => "label empty or too long"
  | .long => "label too long"
  | .forbidden c => "Invalid character " ++ String.ofList (Quoted.text [c])
  | .mixed => "Violation of BIDI requirement 2"
  | .openEnds => "Violation of BIDI requirement 3"
  | .encoded => "Label starts with ACE prefix"

def message (flaw : HostFlaw) : String :=
  "encoding with 'idna' codec failed (UnicodeError: " ++ flaw.cause ++ ")"

end HostFlaw

inductive LocationFlaw where
  /-- A bracket is not closed, or not opened. -/
  | openBracket
  /-- What stands in brackets is an address of a kind to come, but not written as one. -/
  | badFuture
  /-- An address of four numbers stands in brackets. -/
  | bracketedV4
  /-- What stands in brackets is no numeric address. -/
  | notNumeric (host : String)
  /-- A character of the authority is a variant of a mark that would end it or cut it apart. -/
  | hiddenMark (authority : String)
  | badPort (port : String)
  | portRange
  | badHost (flaw : HostFlaw)
  deriving DecidableEq, Repr

namespace LocationFlaw

def quoted (s : String) : String := String.ofList (Quoted.text s.toList)

def message : LocationFlaw → String
  | .openBracket => "Invalid IPv6 URL"
  | .badFuture => "IPvFuture address is invalid"
  | .bracketedV4 => "An IPv4 address cannot be in brackets"
  | .notNumeric host => quoted host ++ " does not appear to be an IPv4 or IPv6 address"
  | .hiddenMark authority =>
    "netloc '" ++ authority ++ "' contains invalid characters under NFKC normalization"
  | .badPort port => "Port could not be cast to integer value as " ++ quoted port
  | .portRange => "Port out of range 0-65535"
  | .badHost flaw => flaw.message

end LocationFlaw

end Gatehouse
