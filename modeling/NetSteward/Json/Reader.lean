import NetSteward.Json.Escape
import NetSteward.Json.Value
import NetSteward.Text.Blank
import NetSteward.Text.CodePoint
import NetSteward.Text.Digit
/-!
# Reading JSON text

The reader takes the standard syntax and the three number words `NaN`,
`Infinity` and `-Infinity`. A name that is repeated in an object keeps
its first place and its last value. When the text is refused, the fault
is reported as the text from the faulty character on, which fixes the
offset: where a value, a name, a colon or a comma was expected, the
opening quote of a string that does not end, the control character or
the backslash inside a string, or what follows the value. A text can
also go beyond what is taken: integers have a greatest number of digits,
and values a greatest depth.
-/

namespace NetSteward

namespace Json

/-- What can be wrong with a text. -/
inductive Fault
  /-- The text is malformed where the given rest of it starts. -/
  | malformed (rest : List Char)
  /-- An integer in the text has too many digits. -/
  | oversized
  /-- A value in the text is nested too deep. -/
  | tooDeep

/-- What a reading step yields, or the fault that it meets. A step on
part of a text yields a value and the text after it. -/
abbrev Reading : Type → Type := Except Fault

/-- The step that meets a fault at the start of a text. -/
def malformedAt {α : Type} (rest : List Char) : Reading α := .error (.malformed rest)

/-- The greatest number of digits of an integer. -/
def digitLimit : Nat := 4300

/-- The greatest number of lists and objects around a value. -/
def depthLimit : Nat := 960

/-- Whether a character may stand between tokens. -/
def isGap (c : Char) : Bool := c == ' ' || c == '\t' || c == '\n' || c == '\r'

/-- The text after the gap at its start. -/
def skipGap (cs : List Char) : List Char := cs.dropWhile isGap

/-! ## Strings -/

/-- The number that four hexadecimal digits write. -/
def fourHex? (a b c d : Char) : Option Nat :=
  match Text.hexDigit? a, Text.hexDigit? b, Text.hexDigit? c, Text.hexDigit? d with
  | some w, some x, some y, some z => some (4096 * w + 256 * x + 16 * y + z)
  | _, _, _, _ => none

/-- A second unit escape, if the text goes on with one and with one
character more. -/
def secondUnit? : List Char → Option (Reading (Nat × List Char))
  | s :: u :: a :: b :: c :: d :: e :: rest =>
    if s = '\\' ∧ u = 'u' then
      match fourHex? a b c d with
      | some n => some (.ok (n, e :: rest))
      | none => some (malformedAt (u :: a :: b :: c :: d :: e :: rest))
    else none
  | _ => none

/-- A unit escape, given the text after its `u`. -/
def readUnit (text : List Char) : Reading (List Char × List Char) :=
  match text with
  | a :: b :: c :: d :: e :: rest =>
    match fourHex? a b c d with
    | none => malformedAt ('u' :: text)
    | some high =>
      if Utf16.isHigh high then
        match secondUnit? (e :: rest) with
        | some (.ok (low, after)) =>
          if Utf16.isLow low then .ok (Text.holding (Utf16.pair high low), after)
          else .ok (Text.holding high, e :: rest)
        | some (.error fault) => .error fault
        | none => .ok (Text.holding high, e :: rest)
      else .ok (Text.holding high, e :: rest)
  | _ => malformedAt ('u' :: text)

/-- What a string holds and the text after its closing quote.
`opening` is the text from the opening quote on. The first argument
bounds the number of characters. -/
def readChars (opening : List Char) : Nat → List Char → Reading (List Char × List Char)
  | 0, _ => malformedAt opening
  | _ + 1, [] => malformedAt opening
  | fuel + 1, c :: rest =>
    if c = '"' then .ok ([], rest)
    else if c = '\\' then
      match rest with
      | [] => malformedAt opening
      | e :: after =>
        if e = 'u' then do
          let (unit, rest) ← readUnit after
          let (xs, rest) ← readChars opening fuel rest
          return (unit ++ xs, rest)
        else match ofLetter? e with
          | none => malformedAt (c :: rest)
          | some x => do
            let (xs, rest) ← readChars opening fuel after
            return (x :: xs, rest)
    else if c.toNat < 32 then malformedAt (c :: rest)
    else do
      let (xs, rest) ← readChars opening fuel rest
      return (c :: xs, rest)

/-- A string, given the text from its opening quote on. -/
def readString (fuel : Nat) (opening : List Char) : Reading (String × List Char) := do
  let (cs, rest) ← readChars opening fuel (opening.drop 1)
  return (String.ofList cs, rest)

/-! ## Numbers -/

/-- The digits at the start of a text, and the rest. -/
def takeDigits (cs : List Char) : List Char × List Char :=
  (cs.takeWhile Char.isDigit, cs.dropWhile Char.isDigit)

/-- The digits of an integer at the start of a text: a zero alone, or
digits that start with another. -/
def takeInteger : List Char → List Char × List Char
  | [] => ([], [])
  | c :: rest => if c = '0' then (['0'], rest) else takeDigits (c :: rest)

/-- The digits after a point, if there are any. -/
def takeFraction : List Char → List Char × List Char
  | [] => ([], [])
  | c :: rest =>
    if c = '.' then
      let (digits, after) := takeDigits rest
      if digits.isEmpty then ([], c :: rest) else (digits, after)
    else ([], c :: rest)

/-- The exponent at the start of a text, if there is one. -/
def takeExponent (cs : List Char) : Option Int × List Char :=
  match cs with
  | [] => (none, cs)
  | e :: rest =>
    if e = 'e' ∨ e = 'E' then
      let (negative, unsigned) : Bool × List Char := match rest with
        | [] => (false, rest)
        | s :: more =>
          if s = '-' then (true, more) else if s = '+' then (false, more) else (false, rest)
      let (digits, after) := takeDigits unsigned
      if digits.isEmpty then (none, cs)
      else
        let n := Text.digitsValue digits
        (some (if negative then -(n : Int) else n), after)
    else (none, cs)

/-- A number as it is written: its sign, its digits before the point and
after it, and its exponent. -/
structure Numeral where
  negative : Bool
  whole : List Char
  fraction : List Char
  exponent : Option Int

/-- The number at the start of a text, if there is one. -/
def takeNumeral? (cs : List Char) : Option (Numeral × List Char) :=
  let (negative, unsigned) : Bool × List Char := match cs with
    | '-' :: rest => (true, rest)
    | _ => (false, cs)
  let (whole, rest) := takeInteger unsigned
  if whole.isEmpty then none
  else
    let (fraction, rest) := takeFraction rest
    let (exponent, rest) := takeExponent rest
    some (⟨negative, whole, fraction, exponent⟩, rest)

/-- The value of a number. A fraction or an exponent makes it a binary64
number. -/
def Numeral.value (n : Numeral) : Reading Json :=
  match n.fraction, n.exponent with
  | [], none =>
    if digitLimit < n.whole.length then .error .oversized
    else
      let magnitude := Text.digitsValue n.whole
      .ok (.int (if n.negative then -(magnitude : Int) else magnitude))
  | fraction, exponent =>
    .ok (.float (Binary64.ofDecimal n.negative (Text.digitsValue (n.whole ++ fraction))
      (exponent.getD 0 - fraction.length)))

/-- What is made of a number: its value, or its text as it is written. -/
inductive Numerals
  | valued
  | verbatim
deriving DecidableEq

/-- A number or one of the number words. -/
def readNumber? (numerals : Numerals) (cs : List Char) : Option (Reading (Json × List Char)) :=
  match Text.after? "NaN".toList cs, Text.after? "Infinity".toList cs,
    Text.after? "-Infinity".toList cs with
  | some rest, _, _ => some (.ok (.float .nan, rest))
  | _, some rest, _ => some (.ok (.float (.infinite false), rest))
  | _, _, some rest => some (.ok (.float (.infinite true), rest))
  | none, none, none => (takeNumeral? cs).map fun (n, rest) =>
    match numerals with
    | .valued => do return (← n.value, rest)
    | .verbatim => .ok (.str (String.ofList (cs.take (cs.length - rest.length))), rest)

/-- A value that is neither a list nor an object. -/
def readScalar (numerals : Numerals) (fuel : Nat) (cs : List Char) : Reading (Json × List Char) :=
  match cs with
  | [] => malformedAt cs
  | c :: _ =>
    if c = '"' then do
      let (s, rest) ← readString fuel cs
      return (.str s, rest)
    else
      match Text.after? "null".toList cs, Text.after? "true".toList cs,
        Text.after? "false".toList cs with
      | some rest, _, _ => .ok (.null, rest)
      | _, some rest, _ => .ok (.bool true, rest)
      | _, _, some rest => .ok (.bool false, rest)
      | none, none, none =>
        match readNumber? numerals cs with
        | some result => result
        | none => malformedAt cs

/-! ## Lists, objects and whole texts -/

mutual

/-- A value at the start of a text. The first argument bounds the number
of steps; twice the length of the text is enough. The second one is the
number of lists and objects that may still be entered. -/
def readValue (numerals : Numerals) : Nat → Nat → List Char → Reading (Json × List Char)
  | 0, _, cs => malformedAt cs
  | fuel + 1, depth, cs =>
    match cs with
    | [] => malformedAt cs
    | c :: rest =>
      if c = '[' ∨ c = '\x7b' then
        match depth with
        | 0 => .error .tooDeep
        | depth + 1 =>
          let rest := skipGap rest
          match rest with
          | [] => malformedAt rest
          | d :: more =>
            if c = '[' then
              if d = ']' then .ok (.arr [], more) else readItems numerals fuel depth [] rest
            else if d = '\x7d' then .ok (.obj [], more) else readMembers numerals fuel depth [] rest
      else readScalar numerals (fuel + 1) cs

/-- The items of a list from one item on, after those already read, which
are given in reverse. -/
def readItems (numerals : Numerals) :
    Nat → Nat → List Json → List Char → Reading (Json × List Char)
  | 0, _, _, cs => malformedAt cs
  | fuel + 1, depth, seen, cs => do
    let (item, rest) ← readValue numerals fuel depth cs
    let rest := skipGap rest
    match rest with
    | [] => malformedAt rest
    | c :: more =>
      if c = ']' then .ok (.arr (item :: seen).reverse, more)
      else if c = ',' then readItems numerals fuel depth (item :: seen) (skipGap more)
      else malformedAt rest

/-- The members of an object from one name on, after those already
read. -/
def readMembers (numerals : Numerals) :
    Nat → Nat → Keyed Json → List Char → Reading (Json × List Char)
  | 0, _, _, cs => malformedAt cs
  | fuel + 1, depth, seen, cs =>
    match cs with
    | [] => malformedAt cs
    | q :: _ =>
      if q = '"' then do
        let (name, rest) ← readString (fuel + 1) cs
        let rest := skipGap rest
        match rest with
        | [] => malformedAt rest
        | colon :: more =>
          if colon = ':' then do
            let (value, rest) ← readValue numerals fuel depth (skipGap more)
            let rest := skipGap rest
            let seen := Keyed.insert seen name value
            match rest with
            | [] => malformedAt rest
            | c :: more =>
              if c = '\x7d' then .ok (.obj seen, more)
              else if c = ',' then readMembers numerals fuel depth seen (skipGap more)
              else malformedAt rest
          else malformedAt rest
      else malformedAt cs

end

/-- **Reads a whole text**, or reports the fault. -/
def readAll (numerals : Numerals) (cs : List Char) : Reading Json := do
  let (value, rest) ← readValue numerals (2 * cs.length + 2) depthLimit (skipGap cs)
  match skipGap rest with
  | [] => return value
  | extra => malformedAt extra

/-- Why a text is refused as a whole. -/
inductive Refused
  /-- The text is malformed at an offset. -/
  | malformed (offset : Nat)
  /-- An integer in the text has too many digits. -/
  | oversized
  /-- A value in the text is nested too deep. -/
  | tooDeep
deriving DecidableEq

/-- Reads a whole text, or reports why it is refused. -/
def read (cs : List Char) : Except Refused Json :=
  match readAll .valued cs with
  | .ok value => .ok value
  | .error (.malformed rest) => .error (.malformed (Text.size cs - Text.size rest))
  | .error .oversized => .error .oversized
  | .error .tooDeep => .error .tooDeep

end Json

end NetSteward
