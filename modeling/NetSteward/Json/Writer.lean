import NetSteward.Json.Escape
import NetSteward.Json.Value
import NetSteward.Number.Shortest
import NetSteward.Text.CodePoint
import NetSteward.Text.Digit
/-!
# JSON text

A value is written compactly: no blanks, the members in order, and every
character outside ASCII as escapes of its UTF-16 units. Integers are
written in full and other numbers as their shortest decimals.
-/

namespace NetSteward

namespace Json

/-- The four hexadecimal digits of a number below `2 ^ 16`. -/
def fourHex (n : Nat) : List Char :=
  [Text.hexDigit (n / 4096 % 16), Text.hexDigit (n / 256 % 16), Text.hexDigit (n / 16 % 16),
    Text.hexDigit (n % 16)]

/-- A UTF-16 unit as an escape. -/
def unitEscape (n : Nat) : List Char := '\\' :: 'u' :: fourHex n

/-- A code point of a string as it is written. -/
def writeCodePoint (n : Nat) : List Char :=
  let c := Char.ofNat n
  match letterOf? c with
  | some letter => ['\\', letter]
  | none => if 32 ≤ n ∧ n < 127 then [c] else (Utf16.units n).flatMap unitEscape

/-- A string in quotes. -/
def writeString (s : String) : List Char :=
  '"' :: (Text.codePoints s.toList).flatMap writeCodePoint ++ ['"']

/-- The texts of the numbers that are not finite. -/
def specialNumbers : Binary64.SpecialTexts := ⟨"Infinity", "NaN"⟩

mutual

/-- A value as text. -/
def write : Json → List Char
  | .null => "null".toList
  | .bool b => if b then "true".toList else "false".toList
  | .int n => (toString n).toList
  | .float x => (x.text specialNumbers).toList
  | .str s => writeString s
  | .arr [] => "[]".toList
  | .arr (x :: xs) => '[' :: write x ++ writeItems xs
  | .obj [] => "\x7b\x7d".toList
  | .obj (m :: ms) => '\x7b' :: writeMember m ++ writeMembers ms
termination_by structural j => j

/-- The items after the first, each with its comma, and the bracket. -/
def writeItems : List Json → List Char
  | [] => [']']
  | x :: xs => ',' :: write x ++ writeItems xs
termination_by structural xs => xs

/-- The members after the first, each with its comma, and the bracket. -/
def writeMembers : List (String × Json) → List Char
  | [] => ['\x7d']
  | m :: ms => ',' :: writeMember m ++ writeMembers ms
termination_by structural ms => ms

/-- A name, a colon and a value. -/
def writeMember : String × Json → List Char
  | (k, v) => writeString k ++ ':' :: write v
termination_by structural m => m

end

/-- A value as compact ASCII text. -/
def compact (j : Json) : String := String.ofList j.write

end Json

end NetSteward
