import NetSteward.Text.Utf8
/-!
# Code pages

A code page gives each byte at most one character. The first bytes of a
page, often all of ASCII, stand for the characters of their own numbers,
so a page lists the characters of its last bytes only.
-/

namespace NetSteward

/-- A code page. -/
structure CodePage where
  /-- Its own name. -/
  name : String
  /-- The other names that it goes by. -/
  aliases : List String
  /-- The characters of the last bytes. The character of replacement is in
  the place of a byte that has none. -/
  last : String

namespace CodePage

/-- The character of a byte, given the characters of the last bytes. -/
def char? (last : Array Char) (b : UInt8) : Option Char :=
  if b.toNat + last.size < 256 then some (Char.ofNat b.toNat)
  else match last[b.toNat + last.size - 256]? with
    | some c => if c = Utf8.replacement then none else some c
    | none => none

/-- The characters of a text of bytes, if each byte has one. -/
def decode? (p : CodePage) (bytes : Bytes) : Option (List Char) :=
  let last := p.last.toList.toArray
  bytes.mapM (char? last)

end CodePage

end NetSteward
