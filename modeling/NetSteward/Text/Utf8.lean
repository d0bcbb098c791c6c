/-!
# UTF-8

Text is encoded to bytes by `encode`. Reading goes byte by byte: `scan`
gives the characters in order, with `none` for each malformed sequence,
where a sequence is as long as its bytes could still begin a character.
The strict reader refuses a text with such a sequence, the lossy one
puts the replacement character in its place.
-/

namespace NetSteward

/-- A text of bytes. -/
abbrev Bytes : Type := List UInt8

namespace Utf8

/-- The bytes of a character. -/
def encodeChar (c : Char) : Bytes :=
  let n := c.toNat
  if n < 0x80 then [n.toUInt8]
  else if n < 0x800 then [(0xC0 + n / 64).toUInt8, (0x80 + n % 64).toUInt8]
  else if n < 0x10000 then
    [(0xE0 + n / 4096).toUInt8, (0x80 + n / 64 % 64).toUInt8, (0x80 + n % 64).toUInt8]
  else
    [(0xF0 + n / 262144).toUInt8, (0x80 + n / 4096 % 64).toUInt8, (0x80 + n / 64 % 64).toUInt8,
      (0x80 + n % 64).toUInt8]

/-- The bytes of a text. -/
def encode (cs : List Char) : Bytes := cs.flatMap encodeChar

/-- A character of which some bytes have been read. -/
structure Pending where
  /-- How many bytes are still to come. -/
  needed : Nat
  /-- The least value that the next byte may have. -/
  low : Nat
  /-- The greatest value that the next byte may have. -/
  high : Nat
  /-- The bits read so far. -/
  value : Nat

/-- What a first byte can be. -/
inductive Start
  | single (c : Char)
  | lead (p : Pending)
  | malformed

/-- Classifies a first byte. The bounds of the second byte exclude
overlong forms, surrogates and code points past the last one. -/
def start (b : UInt8) : Start :=
  let n := b.toNat
  if n < 0x80 then .single (Char.ofNat n)
  else if n < 0xC2 then .malformed
  else if n < 0xE0 then .lead ⟨1, 0x80, 0xBF, n - 0xC0⟩
  else if n = 0xE0 then .lead ⟨2, 0xA0, 0xBF, 0⟩
  else if n = 0xED then .lead ⟨2, 0x80, 0x9F, 13⟩
  else if n < 0xF0 then .lead ⟨2, 0x80, 0xBF, n - 0xE0⟩
  else if n = 0xF0 then .lead ⟨3, 0x90, 0xBF, 0⟩
  else if n < 0xF4 then .lead ⟨3, 0x80, 0xBF, n - 0xF0⟩
  else if n = 0xF4 then .lead ⟨3, 0x80, 0x8F, 4⟩
  else .malformed

/-- The characters of a text of bytes, read on from a character of which
some bytes have been read. -/
def scanFrom : Option Pending → Bytes → List (Option Char)
  | none, [] => []
  | some _, [] => [none]
  | none, b :: rest => match start b with
    | .single c => some c :: scanFrom none rest
    | .lead p => scanFrom (some p) rest
    | .malformed => none :: scanFrom none rest
  | some p, b :: rest =>
    if p.low ≤ b.toNat ∧ b.toNat ≤ p.high then
      let value := p.value * 64 + b.toNat % 64
      if p.needed ≤ 1 then some (Char.ofNat value) :: scanFrom none rest
      else scanFrom (some ⟨p.needed - 1, 0x80, 0xBF, value⟩) rest
    else none :: match start b with
      | .single c => some c :: scanFrom none rest
      | .lead p => scanFrom (some p) rest
      | .malformed => none :: scanFrom none rest

/-- The characters of a text of bytes, `none` for a malformed sequence. -/
def scan (bytes : Bytes) : List (Option Char) := scanFrom none bytes

/-- The character that stands for a malformed sequence. -/
def replacement : Char := '\uFFFD'

/-- Reads all that can be read. -/
def decodeLossy (bytes : Bytes) : List Char := (scan bytes).map fun c => c.getD replacement

/-- Reads a text without malformed sequences. -/
def decode? (bytes : Bytes) : Option (List Char) := (scan bytes).mapM id

end Utf8

end NetSteward
