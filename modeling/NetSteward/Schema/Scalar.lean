import NetSteward.Schema.Checked
import NetSteward.Text.CodePoint
import NetSteward.Text.Integer
/-!
# Scalar fields

How single values are checked. Texts are never made of anything else; a
truth value can also be written as a number of 64 bits or a word, and an
integer as a whole number, a truth value or a text of digits. A text is
taken as it is, but where its characters matter it must not hold half of
one.
-/

namespace NetSteward

namespace Schema

/-- A text. -/
def text : Json → Checked String
  | .str s => .ok s
  | _ => .issue .notText

/-- The characters of a text, which must not hold half of one. -/
def characters (s : String) : Checked (List Char) :=
  match Text.characters? s.toList with
  | some cs => .ok cs
  | none => .issue .unsoundText

/-- A text of at least one and at most `most` characters, in a form. The
length is checked first. -/
def boundedText (most : Nat) (pattern : Pattern) (j : Json) : Checked String :=
  (text j).andThen fun s => (characters s).andThen fun cs =>
    if cs.isEmpty then .issue .tooShort
    else if most < cs.length then .issue (.tooLong most)
    else if pattern.accepts cs then .ok s
    else .issue (.mismatch pattern)

/-- An identifier of a VPC. -/
def identifier : Json → Checked String := boundedText 64 .identifier

/-- A user-defined name. -/
def name : Json → Checked String := boundedText 63 .name

/-- A value of an enumeration, given by its published names. -/
def choice {α : Type} (named : List (String × α)) (j : Json) : Checked α :=
  match j with
  | .str s => (characters s).andThen fun _ => match Keyed.get? named s with
    | some a => .ok a
    | none => .issue (.notAmong (Keyed.keys named))
  | _ => .issue (.notAmong (Keyed.keys named))

/-- A value that may be null. -/
def nullable {α : Type} (check : Json → Checked α) : Json → Checked (Option α)
  | .null => .ok none
  | j => some <$> check j

/-- A list of values. -/
def list {α : Type} (check : Json → Checked α) : Json → Checked (List α)
  | .arr items => Checked.collect check 0 items
  | _ => .issue .notList

/-- An object, with any members. -/
def object : Json → Checked (Keyed Json)
  | .obj members => .ok members
  | _ => .issue .notObject

/-! ## Truth values -/

/-- The words for true and for false. -/
def truthWords : List (String × Bool) :=
  [("true", true), ("t", true), ("yes", true), ("y", true), ("on", true), ("1", true),
    ("false", false), ("f", false), ("no", false), ("n", false), ("off", false), ("0", false)]

/-- The bound of the whole numbers of 64 bits with a sign. -/
def wordBound : Nat := Nat.pow 2 63

/-- The truth value of a whole number. -/
def truthOfInt (n : Int) : Checked Bool :=
  if n = 1 then .ok true else if n = 0 then .ok false else .issue .unreadableBoolean

/-- A truth value. -/
def boolean : Json → Checked Bool
  | .bool b => .ok b
  | .str s => (characters s).andThen fun _ =>
    match Keyed.get? truthWords (Text.asciiLower s) with
    | some b => .ok b
    | none => .issue .unreadableBoolean
  | .int n =>
    if -(wordBound : Int) ≤ n ∧ n < wordBound then truthOfInt n else .issue .notBoolean
  | .float x => match x.toInt? with
    | some n => if n.natAbs < wordBound then truthOfInt n else .issue .notBoolean
    | none => .issue .notBoolean
  | _ => .issue .notBoolean

/-! ## Integers -/

/-- An integer. A text that writes one may have white space around. -/
def integer : Json → Checked Int
  | .int n => .ok n
  | .bool b => .ok (if b then 1 else 0)
  | .str s => (characters s).andThen fun cs => match Text.readInteger cs with
    | .ok n => .ok n
    | .error .oversized => .issue .oversizedInteger
    | .error .unreadable => .issue .unreadableInteger
  | .float x =>
    if !x.isFinite then .issue .notFinite
    else match x.toInt? with
      | none => .issue .fractionalInteger
      | some n => if n.natAbs < wordBound then .ok n else .issue .oversizedInteger
  | _ => .issue .notInteger

end Schema

end NetSteward
