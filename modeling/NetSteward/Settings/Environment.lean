import NetSteward.Schema.Unreadable
import NetSteward.Settings
/-!
# Settings from the environment

The environment holds variables, and a variable with the name of a
setting, in any case, sets it. Names and values are kept as bytes, so a
text that holds half of a character pair can be kept only where the half
stands for a byte that is part of no character. The variables are set one
after another, and the first that cannot be set ends it.
-/

namespace NetSteward

namespace Settings

/-- The code point that stands for a byte is so much greater. -/
def byteBase : Nat := 0xDC00

/-- The bytes as which a code point is kept. -/
def storedPoint (n : Nat) : Except Mismatch Bytes :=
  if byteBase + 128 ≤ n ∧ n < byteBase + 256 then .ok [(n - byteBase).toUInt8]
  else if Utf16.isHalf n then .error .unencodable
  else .ok (Utf8.encodeChar (Char.ofNat n))

/-- The bytes as which a text is kept. -/
def stored (s : String) : Except Mismatch Bytes := do
  return (← (Text.codePoints s.toList).mapM storedPoint).flatten

/-- The character that the first bytes of a text write, and how many they
are. -/
def firstCharacter? (bytes : Bytes) : Option (Char × Nat) :=
  [1, 2, 3, 4].findSome? fun count => match Utf8.decode? (bytes.take count) with
    | some [c] => some (c, count)
    | _ => none

/-- The code points that kept bytes stand for, after so many bytes have
been passed over. -/
def pointsFrom : Nat → Bytes → List Nat
  | _, [] => []
  | passed + 1, _ :: rest => pointsFrom passed rest
  | 0, b :: rest => match firstCharacter? (b :: rest) with
    | some (c, count) => c.toNat :: pointsFrom (count - 1) rest
    | none => (byteBase + b.toNat) :: pointsFrom 0 rest

/-- The text that kept bytes stand for. -/
def recalled (bytes : Bytes) : String := String.ofList (Text.ofCodePoints (pointsFrom 0 bytes))

/-- A variable as it is found again. There is no place for the null
character, for an equals sign in a name, and for a variable without a
name. -/
def kept : String × Json → Except Mismatch (String × Json)
  | (name, .str value) => do
    let name ← stored name
    let value ← stored value
    if name.contains 0 || value.contains 0 || name.contains 61 then .error .malformed
    else if name.isEmpty then .error .unnamed
    else return (recalled name, .str (recalled value))
  | (name, _) => do
    let _ ← stored name
    .error .notText

/-- The settings that an environment gives. The names are read in lower
case; of two variables for one setting the later one counts. -/
def ofEnvironment (entries : Keyed Json) : Read Settings := do
  let found ← shaped (entries.mapM kept)
  checked (check (Keyed.ofPairs (found.map fun e => (lowerName e.1, e.2))))

end Settings

end NetSteward
