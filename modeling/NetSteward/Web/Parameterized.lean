import NetSteward.Keyed
import NetSteward.Text.Blank
/-!
# Header values with parameters

The value of some headers is a word with parameters after it, each after
a semicolon: a name, an equals sign and a value, which may stand in
quotes. A semicolon in quotes does not count. Spaces and tabs around a
word, a name or a value do not belong to it. The case of a name does not
count before an equals sign; a parameter that is a name alone has the
empty text as its value, and its name stays as it is written. Parameters
with a star in their names, which are written in another way, are passed
over.
-/

namespace NetSteward

namespace Web

/-- The value of a header, without its parameters and with them. -/
structure Parameterized where
  word : String
  parameters : Keyed String

namespace Parameterized

/-- Splits a value at the semicolons that are not in quotes. A quote
after a backslash is no quote. -/
def pieces (quoted escaped : Bool) : List Char → List (List Char)
  | [] => [[]]
  | c :: rest =>
    if c = ';' ∧ !quoted then [] :: pieces false false rest
    else
      let quoted := if c = '"' ∧ !escaped then !quoted else quoted
      match pieces quoted (c == '\\') rest with
      | [] => [[c]]
      | piece :: more => (c :: piece) :: more

/-- Drops the backslash before each occurrence of a character. -/
def dropEscapes (escaped : Char) : List Char → List Char
  | c :: d :: rest =>
    if c = '\\' ∧ d = escaped then d :: dropEscapes escaped rest
    else c :: dropEscapes escaped (d :: rest)
  | cs => cs

/-- Undoes the escapes of backslashes, and then those of quotes. -/
def unescaped (cs : List Char) : List Char := dropEscapes '"' (dropEscapes '\\' cs)

/-- A text without the quotes around it. -/
def unquoted (cs : List Char) : List Char :=
  match cs, cs.reverse with
  | '"' :: _ :: _, '"' :: _ => unescaped ((cs.drop 1).dropLast)
  | _, _ => cs

/-- Whether a character around a word does not belong to it. -/
def isPadding (c : Char) : Bool := c == ' ' || c == '\t'

/-- A text in lower case without what does not belong to it. -/
def bare (cs : List Char) : String :=
  Text.asciiLower (String.ofList (Text.strip isPadding cs))

/-- A parameter: its name, in lower case if a value follows it, and its
value, empty if it has none. -/
def parameter (piece : List Char) : String × String :=
  match Text.splitFirst? '=' piece with
  | some (name, value) => (bare name, String.ofList (unquoted (Text.strip isPadding value)))
  | none => (String.ofList (Text.strip isPadding piece), "")

/-- The parameters that pieces write. Of two with one name the later one
counts. -/
def parametersOf (pieces : List (List Char)) : Keyed String :=
  Keyed.ofPairs ((pieces.map parameter).filter fun e => !e.1.toList.contains '*')

/-- Reads the value of a header. The word is put in lower case. -/
def ofText (text : String) : Parameterized :=
  match pieces false false text.toList with
  | [] => ⟨"", []⟩
  | first :: rest => ⟨bare first, parametersOf rest⟩

end Parameterized

end Web

end NetSteward
