namespace Gatehouse

/-- Whitespace of the whole character set: the controls that separate, the space and the no-break
space, and the spaces and separators of the higher planes; zero-width characters are not among
it. -/
def isBlank (c : Char) : Bool :=
  let n := c.toNat
  (0x09 ≤ n && n ≤ 0x0D) || (0x1C ≤ n && n ≤ 0x20) || n = 0x85 || n = 0xA0 || n = 0x1680 ||
    (0x2000 ≤ n && n ≤ 0x200A) || n = 0x2028 || n = 0x2029 || n = 0x202F || n = 0x205F || n = 0x3000

/-- The blanks that may surround a part of a header. -/
def isHeaderBlank (c : Char) : Bool := c = ' ' || c = '\t'

/-- The white space of the first 128 characters, without the separating controls. -/
def isPlainBlank (c : Char) : Bool := c = ' ' || (0x09 ≤ c.toNat && c.toNat ≤ 0x0D)

end Gatehouse
