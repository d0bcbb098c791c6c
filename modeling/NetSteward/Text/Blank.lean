/-!
# White space, stripping and splitting

Two sets of blank characters are in use. `isSpace` is the set of the
characters with the property White_Space; `isBlank` adds the four
information separators. `strip` removes a set from both ends of a text,
and texts are split at characters that separate.
-/

namespace NetSteward

namespace Text

/-- The characters with the property White_Space. -/
def isSpace (c : Char) : Bool :=
  let n := c.toNat
  (9 ≤ n && n ≤ 13) || n == 0x20 || n == 0x85 || n == 0xA0 || n == 0x1680 ||
    (0x2000 ≤ n && n ≤ 0x200A) || n == 0x2028 || n == 0x2029 || n == 0x202F || n == 0x205F ||
    n == 0x3000

/-- White space and the information separators. -/
def isBlank (c : Char) : Bool := isSpace c || (0x1C ≤ c.toNat && c.toNat ≤ 0x1F)

/-- Removes leading characters of a set. -/
def stripStart (p : Char → Bool) (cs : List Char) : List Char := cs.dropWhile p

/-- Removes trailing characters of a set. -/
def stripEnd (p : Char → Bool) (cs : List Char) : List Char := (cs.reverse.dropWhile p).reverse

/-- Removes the characters of a set from both ends. -/
def strip (p : Char → Bool) (cs : List Char) : List Char := stripEnd p (stripStart p cs)

/-- What follows a word, if a text starts with the word. -/
def after? {α : Type} [DecidableEq α] : List α → List α → Option (List α)
  | [], cs => some cs
  | _ :: _, [] => none
  | w :: ws, c :: cs => if w = c then after? ws cs else none

/-- Whether a word occurs in a text. -/
def occursIn (word : List Char) : List Char → Bool
  | [] => word.isEmpty
  | c :: cs => word.isPrefixOf (c :: cs) || occursIn word cs

/-- Splits a text at each occurrence of a character: one piece more than
there are occurrences. -/
def splitAll (sep : Char) : List Char → List (List Char)
  | [] => [[]]
  | c :: rest =>
    if c = sep then [] :: splitAll sep rest
    else match splitAll sep rest with
      | [] => [[c]]
      | piece :: more => (c :: piece) :: more

/-- Splits a text at the first occurrence of a character, if there is
one. -/
def splitFirst? (sep : Char) : List Char → Option (List Char × List Char)
  | [] => none
  | c :: rest =>
    if c = sep then some ([], rest)
    else (splitFirst? sep rest).map fun (before, after) => (c :: before, after)

/-- Splits a text at the last occurrence of a character, if there is
one. -/
def splitLast? (sep : Char) (cs : List Char) : Option (List Char × List Char) :=
  (splitFirst? sep cs.reverse).map fun (after, before) => (before.reverse, after.reverse)

/-- The text before the first occurrence of a character, or all of it,
and the text after it. -/
def cutAt (sep : Char) (cs : List Char) : List Char × List Char :=
  (splitFirst? sep cs).getD (cs, [])

/-- Whether a character is one of ASCII. -/
def isAscii (c : Char) : Bool := c.toNat < 128

/-- Lower case for the ASCII letters; other characters stay. -/
def asciiLower (s : String) : String := String.ofList (s.toList.map Char.toLower)

end Text

end NetSteward
