import NetSteward.Text.Digit
import NetSteward.Text.Name
import NetSteward.Text.Utf8
/-!
# Text with escapes

A text of bytes can write code points by their numbers, behind a
backslash. In the full form there are octal and hexadecimal numbers of
several widths, names of characters in braces, letters for some control
characters, and a line end behind a backslash is skipped; the raw form has
the two widest numbers only. Every other byte stands for the code point of
its own number.
-/

namespace NetSteward

namespace Escaped

/-- Which escapes there are. -/
inductive Form
  | full
  | raw
deriving DecidableEq

/-- What has been read of an escape. -/
inductive Pending
  | nothing
  | backslash
  /-- Octal digits, of which so many more may follow. -/
  | octal (left value : Nat)
  /-- Hexadecimal digits, of which so many more have to follow. -/
  | hex (left value : Nat)
  /-- The letter that announces a name. -/
  | announced
  /-- A name, of which some characters have been read, the last first. -/
  | name (read : List Char)

/-- The code points that are written by a letter, each behind it. -/
def letters : List (Char × Nat) :=
  [('\\', 92), ('\'', 39), ('"', 34), ('a', 7), ('b', 8), ('t', 9), ('n', 10), ('v', 11),
    ('f', 12), ('r', 13)]

/-- The width of the hexadecimal number behind a letter. -/
def width? (form : Form) (c : Char) : Option Nat :=
  if c = 'u' then some 4
  else if c = 'U' then some 8
  else if c = 'x' ∧ form = .full then some 2
  else none

/-- The code point that a letter writes. -/
def letter? (form : Form) (c : Char) : Option Nat :=
  match form with
  | .full => (letters.find? fun e => e.1 == c).map (·.2)
  | .raw => none

/-- The value of an octal digit that may start a number. -/
def octal? (form : Form) (c : Char) : Option Nat :=
  if form = .full ∧ '0' ≤ c ∧ c ≤ '7' then some (c.toNat - 48) else none

/-- The code points of a text of bytes, read on from what is pending. -/
def decodeFrom (form : Form) : Pending → Bytes → Option (List Nat)
  | .nothing, [] => some []
  | .backslash, [] => if form = .raw then some [92] else none
  | .octal _ value, [] => some [value]
  | .hex _ _, [] => none
  | .announced, [] => none
  | .name _, [] => none
  | .nothing, b :: rest =>
    if b = 92 then decodeFrom form .backslash rest
    else (decodeFrom form .nothing rest).map (b.toNat :: ·)
  | .backslash, b :: rest =>
    let c := Char.ofNat b.toNat
    match letter? form c, width? form c, octal? form c with
    | some n, _, _ => (decodeFrom form .nothing rest).map (n :: ·)
    | none, some width, _ => decodeFrom form (.hex width 0) rest
    | none, none, some digit => decodeFrom form (.octal 2 digit) rest
    | none, none, none =>
      if form = .full ∧ c = 'N' then decodeFrom form .announced rest
      else if form = .full ∧ c = '\n' then decodeFrom form .nothing rest
      else (decodeFrom form .nothing rest).map fun ns => 92 :: b.toNat :: ns
  | .octal left value, b :: rest =>
    match left, octal? form (Char.ofNat b.toNat) with
    | left + 1, some digit => decodeFrom form (.octal left (8 * value + digit)) rest
    | _, _ =>
      if b = 92 then (decodeFrom form .backslash rest).map (value :: ·)
      else (decodeFrom form .nothing rest).map fun ns => value :: b.toNat :: ns
  | .hex left value, b :: rest =>
    match Text.hexDigit? (Char.ofNat b.toNat) with
    | none => none
    | some digit =>
      let value := 16 * value + digit
      if 1 < left then decodeFrom form (.hex (left - 1) value) rest
      else if value < 0x110000 then (decodeFrom form .nothing rest).map (value :: ·)
      else none
  | .announced, b :: rest =>
    if b = 123 then decodeFrom form (.name []) rest else none
  | .name read, b :: rest =>
    if b = 125 then do
      let n ← Text.Name.point? (String.ofList read.reverse)
      let points ← decodeFrom form .nothing rest
      return n :: points
    else decodeFrom form (.name (Char.ofNat b.toNat :: read)) rest

/-- The code points of a text of bytes, if it is well formed. -/
def decode? (form : Form) (bytes : Bytes) : Option (List Nat) := decodeFrom form .nothing bytes

end Escaped

end NetSteward
