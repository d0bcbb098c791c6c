import NetSteward.Json.Reader
import NetSteward.Text.Utf8
/-!
# JSON from bytes

A JSON text starts with an ASCII character, so the zero bytes among the
first four tell in which encoding it is sent: UTF-8, or UTF-16 or UTF-32
with either end first. A byte order mark before UTF-8 is passed over.
-/

namespace NetSteward

namespace Json

/-- The encodings in which JSON is sent. -/
inductive Encoding
  | utf8
  | utf16 (bigEndian : Bool)
  | utf32 (bigEndian : Bool)
deriving DecidableEq

/-- The encoding that the first bytes of a text tell. -/
def Encoding.ofBytes : Bytes → Encoding
  | 0 :: 0 :: _ :: _ :: _ => .utf32 true
  | 0 :: _ :: _ :: _ :: _ => .utf16 true
  | _ :: 0 :: 0 :: 0 :: _ => .utf32 false
  | _ :: 0 :: _ :: _ :: _ => .utf16 false
  | [0, _] => .utf16 true
  | [_, 0] => .utf16 false
  | _ => .utf8

/-- The number that bytes write, with either end first. -/
def wordValue (bigEndian : Bool) (bytes : Bytes) : Nat :=
  (if bigEndian then bytes else bytes.reverse).foldl (fun n b => 256 * n + b.toNat) 0

/-- The units that pairs of bytes write, if none is left over. -/
def units16? (bigEndian : Bool) : Bytes → Option (List Nat)
  | [] => some []
  | [_] => none
  | a :: b :: rest => (units16? bigEndian rest).map (wordValue bigEndian [a, b] :: ·)

/-- The code points that groups of four bytes write, if each group writes
one and none is left over. -/
def codePoints32? (bigEndian : Bool) : Bytes → Option (List Nat)
  | [] => some []
  | a :: b :: c :: d :: rest =>
    let n := wordValue bigEndian [a, b, c, d]
    if n < 0x110000 then (codePoints32? bigEndian rest).map (n :: ·) else none
  | _ => none

/-- Characters without a byte order mark at their start. -/
def withoutMark : List Char → List Char
  | '\uFEFF' :: rest => rest
  | cs => cs

/-- The text that bytes write in the encoding that they tell. -/
def textOfBytes? (bytes : Bytes) : Option (List Char) :=
  match Encoding.ofBytes bytes with
  | .utf8 => (Utf8.decode? bytes).map fun cs => Text.ofCharacters (withoutMark cs)
  | .utf16 bigEndian =>
    (units16? bigEndian bytes).map fun units => Text.ofCodePoints (Utf16.ofUnits units)
  | .utf32 bigEndian => (codePoints32? bigEndian bytes).map Text.ofCodePoints

end Json

end NetSteward
