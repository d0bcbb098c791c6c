import NetSteward.Text.Charset.Ksx1001
import NetSteward.Text.Charset.Multibyte
import NetSteward.Text.Composed
/-!
# Korean character sets

KS X 1001 has the usual syllables of Hangul alone. Three schemes write the
others: EUC spells a syllable by its letters, the unified code gives its
free pairs of bytes to those that are missing, in order, and Johab writes
the letters of every syllable in fields of five bits.
-/

namespace NetSteward

namespace Korean

/-! ## Letters and syllables -/

/-- The letters that can start a syllable. -/
def initials : String := "ㄱㄲㄴㄷㄸㄹㅁㅂㅃㅅㅆㅇㅈㅉㅊㅋㅌㅍㅎ"

/-- The letters that can end a syllable. -/
def finals : String := "ㄱㄲㄳㄴㄵㄶㄷㄹㄺㄻㄼㄽㄾㄿㅀㅁㅂㅄㅅㅆㅇㅈㅊㅋㅌㅍㅎ"

/-- The first vowel. -/
def firstVowel : Nat := 0x314F

/-- How many vowels there are. -/
def vowelCount : Nat := 21

/-- The place of a letter among some, by its code point. -/
def place? (letters : String) (n : Nat) : Option Nat :=
  letters.toList.findIdx? fun c => c.toNat == n

/-! ## EUC -/

/-- The letter, or the sign that fills a place without one, that two bytes
write. -/
def letter? : List Nat → Option Nat
  | [b, c] => if b = 0xA4 then Grid.ksx1001.upperPair? b c else none
  | _ => none

/-- The sign that fills the place of a letter. -/
def filler : Nat := 0x3164

/-- The syllable that is spelled by an initial, a vowel and a final letter,
each of two bytes. -/
def spelled? (bytes : List Nat) : Option Nat := do
  let initial ← place? initials (← letter? (bytes.take 2))
  let vowel ← letter? ((bytes.drop 2).take 2)
  let final ← letter? ((bytes.drop 4).take 2)
  if vowel < firstVowel ∨ firstVowel + vowelCount ≤ vowel then none
  else
    let final ← if final = filler then some 0 else (place? finals final).map (· + 1)
    return Text.Composed.syllable initial (vowel - firstVowel) final

/-- A step in EUC. The sign that fills a place starts a syllable that is
spelled. -/
def eucStep (b : Nat) (rest : List Nat) : Option (List Nat × Nat) :=
  if b = 0xA4 ∧ rest.head? = some 0xD4 then
    (spelled? ((rest.drop 1).take 6)).map fun n => ([n], 7)
  else Multibyte.pairStep Grid.ksx1001.upperPair? b rest

/-- EUC. -/
def euc : Multibyte where
  name := "euc_kr"
  aliases := ["euckr", "korean", "ks_c_5601", "ks_c_5601_1987", "ks_x_1001", "ksc5601",
    "ksx1001", "x_mac_korean"]
  decode := Multibyte.ofSteps eucStep

/-! ## The unified code -/

/-- The syllables of KS X 1001, by their numbers among all. -/
def usual : List Nat :=
  (Grid.ksx1001.points (List.range' 16 25)).map (· - Text.Composed.firstSyllable)

/-- How many second bytes stand before one: letters of both cases, then
bytes of the upper half. -/
def trail? (c : Nat) : Option Nat :=
  if 0x41 ≤ c ∧ c ≤ 0x5A then some (c - 0x41)
  else if 0x61 ≤ c ∧ c ≤ 0x7A then some (c - 0x61 + 26)
  else if 0x81 ≤ c ∧ c ≤ 0xFE then some (c - 0x81 + 52)
  else none

/-- How many syllables there are. -/
def syllableCount : Nat := 11172

/-- The syllable outside KS X 1001 that two bytes write. Behind the first
32 first bytes half of the second bytes are left. -/
def unusual? (b c : Nat) : Option Nat := do
  let trail ← trail? c
  if b < 0x81 then none
  else
    let place := if b < 0xA1 then (b - 0x81) * 178 + trail else 32 * 178 + (b - 0xA1) * 84 + trail
    let n := Grid.unlisted 0 place usual
    if (0xA1 ≤ b ∧ 84 ≤ trail) ∨ syllableCount ≤ n then none
    else return Text.Composed.firstSyllable + n

/-- The unified code. -/
def unified : Multibyte where
  name := "cp949"
  aliases := ["949", "ms949", "uhc"]
  decode := Multibyte.ofSteps (Multibyte.pairStep fun b c =>
    (Grid.ksx1001.upperPair? b c).or (unusual? b c))

/-! ## Johab -/

/-- What a field of a syllable holds. -/
inductive Field
  /-- Nothing. -/
  | filler
  /-- The letter at a place. -/
  | letter (place : Nat)

/-- The initial in a field. -/
def initial? (n : Nat) : Option Field :=
  if n = 1 then some .filler
  else if 2 ≤ n ∧ n ≤ 20 then some (.letter (n - 2))
  else none

/-- The vowel in a field. The first two numbers of each eight are not in
use, and the last vowel has the last but two. -/
def vowel? (n : Nat) : Option Field :=
  if n = 2 then some .filler
  else if 3 ≤ n ∧ n ≤ 29 ∧ 2 ≤ n % 8 then some (.letter (n / 8 * 6 + n % 8 - 3))
  else none

/-- The final letter in a field, which passes over one number. -/
def final? (n : Nat) : Option Field :=
  if n = 1 then some .filler
  else if 2 ≤ n ∧ n ≤ 17 then some (.letter (n - 2))
  else if 19 ≤ n ∧ n ≤ 29 then some (.letter (n - 3))
  else none

/-- The code point of the letter at a place. -/
def letterAt? (letters : String) (place : Nat) : Option Nat :=
  (letters.toList[place]?).map Char.toNat

/-- The syllable of three fields, or the letter that is alone in them. -/
def ofFields : Field → Field → Field → Option Nat
  | .filler, .filler, .filler => some 0x3000
  | .letter i, .filler, .filler => letterAt? initials i
  | .filler, .letter v, .filler => some (firstVowel + v)
  | .filler, .filler, .letter f => letterAt? finals f
  | .letter i, .letter v, .filler => some (Text.Composed.syllable i v 0)
  | .letter i, .letter v, .letter f => some (Text.Composed.syllable i v (f + 1))
  | _, _, _ => none

/-- The character of KS X 1001 that two bytes write, two rows to a first
byte. The syllables and letters are left out. -/
def sign? (b c : Nat) : Option Nat :=
  if b < 0xD9 ∨ b = 0xDF ∨ 0xF9 < b ∨ c < 0x31 ∨ 0x80 ≤ c ∧ c < 0x91 ∨ c % 128 = 127 ∨
      b = 0xDA ∧ 0xA1 ≤ c ∧ c ≤ 0xD3 then none
  else
    let double := if b < 0xE0 then 2 * (b - 0xD9) else 2 * b - 0x197
    let place := if c < 0x91 then c - 0x31 else c - 0x43
    Grid.ksx1001.point? (double + place / 94 + 1) (place % 94)

/-- The character that two bytes write. -/
def johabPair? (b c : Nat) : Option Nat :=
  if b < 0xD8 then do
    let code := 256 * b + c
    let initial ← initial? (code / 1024 % 32)
    let vowel ← vowel? (code / 32 % 32)
    let final ← final? (code % 32)
    ofFields initial vowel final
  else sign? b c

/-- Johab. -/
def johab : Multibyte where
  name := "johab"
  aliases := ["cp1361", "ms1361"]
  decode := Multibyte.ofSteps (Multibyte.pairStep johabPair?)

/-- The Korean sets that need no commands in a text. -/
def sets : List Multibyte := [euc, unified, johab]

end Korean

end NetSteward
