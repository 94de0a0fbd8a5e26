import Gatehouse.Text.Cut

namespace Gatehouse.Url

structure Parts where
  scheme : List Char
  authority : List Char
  path : List Char
  query : List Char
  fragment : List Char
  deriving DecidableEq, Repr

namespace Parts

/-- What is dropped in front of a location: controls and spaces. -/
def isLeading (c : Char) : Bool := c.toNat ≤ 0x20

/-- What is dropped anywhere: tabs and the ends of lines. -/
def isDropped (c : Char) : Bool := c = '\t' || c = '\n' || c = '\r'

def clean (cs : List Char) : List Char := (cs.dropWhile isLeading).filter (!isDropped ·)

def isSchemeMark (c : Char) : Bool := c.isAlphanum || c = '+' || c = '-' || c = '.'

def isScheme : List Char → Bool
  | [] => false
  | c :: rest => c.isAlpha && rest.all isSchemeMark

/-- The scheme before the first colon, in lower case, and the rest. -/
def takeScheme (cs : List Char) : List Char × List Char :=
  match Text.cutAt ':' cs with
  | (before, some rest) => if isScheme before then (before.map Char.toLower, rest) else ([], cs)
  | (_, none) => ([], cs)

def endsAuthority (c : Char) : Bool := c = '/' || c = '?' || c = '#'

/-- The authority after two slashes, and the rest. -/
def takeAuthority : List Char → List Char × List Char
  | '/' :: '/' :: rest => rest.span (!endsAuthority ·)
  | cs => ([], cs)

def split (cs : List Char) : Parts :=
  let (scheme, rest) := takeScheme (clean cs)
  let (authority, rest) := takeAuthority rest
  let (before, fragment) := Text.cutAt '#' rest
  let (path, query) := Text.cutAt '?' before
  ⟨scheme, authority, path, query.getD [], fragment.getD []⟩

/-- Schemes whose locations are written with an authority even if it is empty. -/
def hierarchical : List String :=
  ["ftp", "http", "gopher", "nntp", "telnet", "imap", "wais", "file", "mms", "https", "shttp",
   "snews", "prospero", "rtsp", "rtspu", "rsync", "svn", "svn+ssh", "sftp", "nfs", "git",
   "git+ssh", "ws", "wss", "itms-services"]

/-- Whether an authority is written. An empty one is not where two slashes follow anyway. -/
def hasAuthority (p : Parts) : Bool :=
  !p.authority.isEmpty ||
    (hierarchical.contains (String.ofList p.scheme) && !List.isPrefixOf ['/', '/'] p.path)

/-- A path that follows an authority starts with a slash. -/
def rooted : List Char → List Char
  | [] => []
  | '/' :: rest => '/' :: rest
  | cs => '/' :: cs

/-- A part after its mark, or nothing for an empty part. -/
def after (mark : Char) (cs : List Char) : List Char := if cs.isEmpty then [] else mark :: cs

def join (p : Parts) : List Char :=
  let scheme := if p.scheme.isEmpty then [] else p.scheme ++ [':']
  let path := if p.hasAuthority then '/' :: '/' :: p.authority ++ rooted p.path else p.path
  scheme ++ path ++ after '?' p.query ++ after '#' p.fragment

end Parts

example :
    (Parts.split " HTTP://a.b/c d?e?f#g#h".toList).join = "http://a.b/c d?e?f#g#h".toList := by
  decide +kernel

example : (Parts.split "/a:b".toList).scheme = [] ∧ (Parts.split "a1:b".toList).path = ['b'] := by
  decide

end Gatehouse.Url
