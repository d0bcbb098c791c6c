import NetSteward.Text.Composed
import NetSteward.Text.Digit
import NetSteward.Text.Name.Alias
import NetSteward.Text.Name.Asian
import NetSteward.Text.Name.Eastern
import NetSteward.Text.Name.European
import NetSteward.Text.Name.Historic
import NetSteward.Text.Name.Pictures
import NetSteward.Text.Name.Signs
/-!
# Names of characters

Each character has a name, and some have more. Most names are listed;
those of syllables of Hangul are spelled by rule, and those of ideographs
hold the number of the code point. Case matters only in names of the
syllables and of the unified ideographs.
-/

namespace NetSteward

namespace Text

namespace Name

/-! ## Syllables -/

/-- How the names of syllables start. -/
def syllableStart : String := "HANGUL SYLLABLE "

/-- The spellings of the consonants that can start a syllable. One is
silent. -/
def initials : List String :=
  ["G", "GG", "N", "D", "DD", "R", "M", "B", "BB", "S", "SS", "", "J", "JJ", "C", "K", "T", "P",
    "H"]

/-- The spellings of the vowels. -/
def vowels : List String :=
  ["A", "AE", "YA", "YAE", "EO", "E", "YEO", "YE", "O", "WA", "WAE", "OE", "YO", "U", "WEO", "WE",
    "WI", "YU", "EU", "YI", "I"]

/-- The spellings of the consonants that can end a syllable, which need not
have one. -/
def finals : List String :=
  ["", "G", "GG", "GS", "N", "NJ", "NH", "D", "L", "LG", "LM", "LB", "LS", "LT", "LP", "LH", "M",
    "B", "BS", "S", "SS", "NG", "J", "C", "K", "T", "P", "H"]

/-- Whether a letter spells vowels. -/
def isVowelLetter (c : Char) : Bool := "AEIOUWY".toList.contains c

/-- The place of a spelling. -/
def place? (spellings : List String) (cs : List Char) : Option Nat :=
  spellings.findIdx? (·.toList == cs)

/-- The syllable with a spelling. -/
def syllable? (cs : List Char) : Option Nat := do
  let rest := cs.dropWhile (!isVowelLetter ·)
  let initial ← place? initials (cs.takeWhile (!isVowelLetter ·))
  let vowel ← place? vowels (rest.takeWhile isVowelLetter)
  let final ← place? finals (rest.dropWhile isVowelLetter)
  return Composed.syllable initial vowel final

/-! ## Ideographs -/

/-- How the names of unified ideographs start. -/
def unifiedStart : String := "CJK UNIFIED IDEOGRAPH-"

/-- The first and the last of the unified ideographs of each block. -/
def unified : List (Nat × Nat) :=
  [(0x3400, 0x4DBF), (0x4E00, 0x9FFF), (0x20000, 0x2A6DF), (0x2A700, 0x2B739),
    (0x2B740, 0x2B81D), (0x2B820, 0x2CEA1), (0x2CEB0, 0x2EBE0), (0x30000, 0x3134A),
    (0x31350, 0x323AF)]

/-- The value of a hexadecimal digit in upper case. -/
def upperDigit? (c : Char) : Option Nat :=
  if 'a' ≤ c then none else hexDigit? c

/-- The number that hexadecimal digits in upper case write. -/
def number? (cs : List Char) : Option Nat := do
  let digits ← cs.mapM upperDigit?
  return digits.foldl (fun n d => 16 * n + d) 0

/-- The unified ideograph whose number has four or five digits. -/
def ideograph? (cs : List Char) : Option Nat := do
  let n ← number? cs
  if (cs.length == 4 || cs.length == 5) && unified.any fun (first, last) => first ≤ n && n ≤ last
  then return n
  else none

/-- The names of other characters that hold a number: how they start, and
the first and the last number of each block. -/
def numbered : List (String × List (Nat × Nat)) :=
  [("CJK COMPATIBILITY IDEOGRAPH-", [(0xF900, 0xFA6D), (0xFA70, 0xFAD9), (0x2F800, 0x2FA1D)]),
    ("KHITAN SMALL SCRIPT CHARACTER-", [(0x18B00, 0x18CD5)]),
    ("NUSHU CHARACTER-", [(0x1B170, 0x1B2FB)])]

/-- The character whose name holds its number, without leading zeros. -/
def numbered? (name : List Char) : Option Nat :=
  numbered.findSome? fun (start, blocks) => do
    if !start.toList.isPrefixOf name then none
    else
      let digits := name.drop start.length
      let n ← number? digits
      if digits.head? != some '0' && blocks.any fun (first, last) => first ≤ n && n ≤ last then
        return n
      else none

/-! ## All names -/

/-- The listed names. -/
def listed : List Run := european ++ asian ++ signs ++ eastern ++ historic ++ pictures ++ aliases

/-- **The code point of the character with a name.** -/
def point? (name : String) : Option Nat :=
  let cs := name.toList
  if syllableStart.toList.isPrefixOf cs then syllable? (cs.drop syllableStart.length)
  else if unifiedStart.toList.isPrefixOf cs then ideograph? (cs.drop unifiedStart.length)
  else
    let upper := cs.map Char.toUpper
    (numbered? upper).or (listed.findSome? (·.point? (String.ofList upper)))

end Name

end Text

end NetSteward
