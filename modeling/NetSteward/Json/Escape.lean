/-!
# Escapes in strings

Some characters are written as a backslash and a letter. One table holds
them for reading and for writing JSON; a slash can be read so as well,
but is never written so. The display form of a value escapes the line
ends and the tab by the same letters.
-/

namespace NetSteward

namespace Json

/-- The characters that are escaped by a letter, each behind its
letter. -/
def letterEscapes : List (Char × Char) :=
  [('"', '"'), ('\\', '\\'), ('b', '\x08'), ('f', '\x0c'), ('n', '\n'), ('r', '\r'), ('t', '\t')]

/-- The letter that escapes a character, if one does. -/
def letterOf? (c : Char) : Option Char :=
  (letterEscapes.find? fun e => e.2 == c).map (·.1)

/-- The letter that escapes a character in the display form, if one
does. -/
def displayLetterOf? (c : Char) : Option Char :=
  if c = '\n' ∨ c = '\r' ∨ c = '\t' then letterOf? c else none

/-- The character that is escaped by a letter, if one is. -/
def ofLetter? (letter : Char) : Option Char :=
  if letter = '/' then some '/'
  else (letterEscapes.find? fun e => e.1 == letter).map (·.2)

end Json

end NetSteward
