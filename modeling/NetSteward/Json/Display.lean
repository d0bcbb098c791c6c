import NetSteward.Json.Escape
import NetSteward.Json.Value
import NetSteward.Number.Shortest
import NetSteward.Text.CodePoint
import NetSteward.Text.Digit
import NetSteward.Text.Printable
/-!
# The display form of a value

Messages about a value that could not be classified show the value
itself. The display form puts strings in single quotes, or in double
quotes if that avoids an escape, and writes the constants as `None`,
`True` and `False`. Printable characters stand for themselves; half of a
pair is none.
-/

namespace NetSteward

namespace Json

/-- The lower-case hexadecimal digits of a number, at least `width` of
them. -/
def hexPadded (width n : Nat) : List Char :=
  let digits := Nat.toDigits 16 n
  List.replicate (width - digits.length) '0' ++ digits

/-- A code point that is not printable, by its number. -/
def numberEscape (n : Nat) : List Char :=
  if n < 0x100 then '\\' :: 'x' :: hexPadded 2 n
  else if n < 0x10000 then '\\' :: 'u' :: hexPadded 4 n
  else '\\' :: 'U' :: hexPadded 8 n

/-- A code point inside quotes. -/
def displayCodePoint (quote : Char) (n : Nat) : List Char :=
  let c := Char.ofNat n
  if c = quote ∨ c = '\\' then ['\\', c]
  else match displayLetterOf? c with
    | some letter => ['\\', letter]
    | none => if Text.isPrintable c then [c] else numberEscape n

/-- The quote around a string: single, unless the string holds single
quotes and no double ones. -/
def quoteFor (cs : List Char) : Char :=
  if cs.contains '\'' && !cs.contains '"' then '"' else '\''

/-- A string in quotes. -/
def displayString (s : String) : List Char :=
  let cs := s.toList
  let quote := quoteFor cs
  quote :: (Text.codePoints cs).flatMap (displayCodePoint quote) ++ [quote]

/-- The texts of the numbers that are not finite. -/
def displaySpecials : Binary64.SpecialTexts := ⟨"inf", "nan"⟩

mutual

/-- A value in display form. -/
def displayChars : Json → List Char
  | .null => "None".toList
  | .bool b => if b then "True".toList else "False".toList
  | .int n => (toString n).toList
  | .float x => (x.text displaySpecials).toList
  | .str s => displayString s
  | .arr [] => "[]".toList
  | .arr (x :: xs) => '[' :: displayChars x ++ displayItems xs
  | .obj [] => "\x7b\x7d".toList
  | .obj (m :: ms) => '\x7b' :: displayMember m ++ displayMembers ms
termination_by structural j => j

/-- The items after the first, each with its comma, and the bracket. -/
def displayItems : List Json → List Char
  | [] => [']']
  | x :: xs => ',' :: ' ' :: displayChars x ++ displayItems xs
termination_by structural xs => xs

/-- The members after the first, each with its comma, and the bracket. -/
def displayMembers : List (String × Json) → List Char
  | [] => ['\x7d']
  | m :: ms => ',' :: ' ' :: displayMember m ++ displayMembers ms
termination_by structural ms => ms

/-- A name, a colon and a value. -/
def displayMember : String × Json → List Char
  | (k, v) => displayString k ++ ':' :: ' ' :: displayChars v
termination_by structural m => m

end

/-- The display form of a value. -/
def display (j : Json) : String := String.ofList j.displayChars

/-- The plain form of a value, as it stands within a text: a string as
it is, any other value in display form. -/
def plain : Json → String
  | .str s => s
  | j => j.display

@[simp] theorem plain_str (s : String) : plain (.str s) = s := rfl

end Json

end NetSteward
