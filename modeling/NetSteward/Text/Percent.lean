import NetSteward.Text.CodePoint
import NetSteward.Text.Digit
/-!
# Percent escapes

In a URL a byte may be written as a percent sign and two hexadecimal
digits. Reading undoes every such escape and takes the bytes of each run
of ASCII characters as UTF-8; an escape with other than two digits stays
as it is. In the fields of a query or a form a plus sign also stands for
a space. Writing escapes every byte that is not unreserved.
-/

namespace NetSteward

namespace Percent

/-- The bytes of a run of ASCII characters, escapes undone. -/
def runBytes : List Char → Bytes
  | [] => []
  | [c] => [c.toNat.toUInt8]
  | [c, d] => [c.toNat.toUInt8, d.toNat.toUInt8]
  | c :: a :: b :: rest =>
    if c = '%' then
      match Text.hexDigit? a, Text.hexDigit? b with
      | some x, some y => (16 * x + y).toUInt8 :: runBytes rest
      | _, _ => c.toNat.toUInt8 :: runBytes (a :: b :: rest)
    else c.toNat.toUInt8 :: runBytes (a :: b :: rest)

/-- The text that a run of ASCII characters writes. -/
def runText (run : List Char) : List Char :=
  Text.ofCharacters (Utf8.decodeLossy (runBytes run))

/-- Reads on after a run of ASCII characters, given in reverse. -/
def decodeAfter (run : List Char) : List Char → List Char
  | [] => runText run.reverse
  | c :: rest =>
    if c.toNat < 128 then decodeAfter (c :: run) rest
    else runText run.reverse ++ c :: decodeAfter [] rest

/-- Undoes the escapes of a text. -/
def decode (cs : List Char) : List Char := decodeAfter [] cs

/-- Undoes the escapes of the name or value of a field, where a plus
sign stands for a space. -/
def decodeField (cs : List Char) : List Char :=
  decode (cs.map fun c => if c = '+' then ' ' else c)

/-- The characters that are never escaped. -/
def isUnreserved (c : Char) : Bool :=
  c.toNat < 128 && (c.isAlphanum || c == '-' || c == '.' || c == '_' || c == '~')

/-- A byte as an escape, or as itself if it is one of the characters
kept. -/
def encodeByte (keep : Char → Bool) (b : UInt8) : List Char :=
  let c := Char.ofNat b.toNat
  if b.toNat < 128 && keep c then [c]
  else ['%', (Text.hexDigit (b.toNat / 16)).toUpper, (Text.hexDigit (b.toNat % 16)).toUpper]

/-- Escapes every byte of the UTF-8 of a text of characters, but for the
characters kept. -/
def encodeKeeping (keep : Char → Bool) (cs : List Char) : List Char :=
  ((Text.bytes? cs).getD []).flatMap (encodeByte keep)

/-- Escapes all but the unreserved characters. -/
def encode (cs : List Char) : List Char := encodeKeeping isUnreserved cs

end Percent

end NetSteward
