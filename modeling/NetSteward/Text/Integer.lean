import NetSteward.Text.Blank
import NetSteward.Text.Digit
/-!
# Integers written as text

Callers may write an integer with blanks around it, zeros before it, a
fraction of zeros after it and single underscores inside. `tidied?`
removes all that once, and what is left has to be an integer in its plain
form. Zeros are passed over after a minus sign and before one, so only a
sign on both sides of them is refused.
-/

namespace NetSteward

namespace Text

/-- Why a text is not read as an integer. -/
inductive IntegerFault
  | unreadable
  | oversized
deriving DecidableEq

/-- The greatest number of digits of an integer. -/
def integerDigitLimit : Nat := 4300

/-- A digit other than zero. -/
def isLeadingDigit (c : Char) : Bool := '1' ≤ c && c ≤ '9'

/-- A text without a minus sign before it, and whether it had one. -/
def splitMinus : List Char → Bool × List Char
  | '-' :: rest => (true, rest)
  | cs => (false, cs)

/-- An integer in its plain form: digits without zeros before them, with
a minus sign or without one. -/
def plainInteger (cs : List Char) : Except IntegerFault Int :=
  let (negative, digits) := splitMinus cs
  match digits with
  | [] => .error .unreadable
  | ['0'] => .ok 0
  | c :: _ =>
    if !isLeadingDigit c then .error .unreadable
    else if integerDigitLimit < (digits.takeWhile Char.isDigit).length then .error .oversized
    else if digits.all Char.isDigit then
      let n := digitsValue digits
      .ok (if negative then -(n : Int) else n)
    else .error .unreadable

/-- A text after zeros, which may be grouped by underscores. The zero
before a point stays, and so does the last character of a text of zeros
only. -/
def afterZeros? (last : Char) : List Char → Option (List Char)
  | [] => some [last]
  | c :: rest =>
    if c = '0' ∨ c = '_' then afterZeros? c rest
    else if isLeadingDigit c ∨ c = '-' then some (c :: rest)
    else if c = '.' then some (last :: c :: rest)
    else none

/-- A text without the zeros before it. A text that starts neither with a
digit nor with a minus sign is none of an integer. -/
def withoutZeros? : List Char → Option (List Char)
  | [] => none
  | c :: rest =>
    if c = '0' then afterZeros? c rest
    else if isLeadingDigit c ∨ c = '-' then some (c :: rest)
    else none

/-- A text without a point and zeros, at least one, at its end. -/
def withoutZeroFraction (cs : List Char) : List Char :=
  match splitFirst? '.' cs with
  | some (whole, fraction) =>
    if !fraction.isEmpty && fraction.all (· == '0') then whole else cs
  | none => cs

/-- Whether two underscores stand side by side. -/
def hasDoubleUnderscore : List Char → Bool
  | c :: d :: rest => (c == '_' && d == '_') || hasDoubleUnderscore (d :: rest)
  | _ => false

/-- A text without its underscores, if each stands alone and inside. -/
def withoutUnderscores (cs : List Char) : List Char :=
  if cs.head? = some '_' ∨ cs.getLast? = some '_' ∨ hasDoubleUnderscore cs then cs
  else cs.filter (· != '_')

/-- A text without a plus sign before a digit. -/
def withoutPlus : List Char → List Char
  | '+' :: c :: rest => if c.isDigit then c :: rest else '+' :: c :: rest
  | cs => cs

/-- A text without all that may surround the digits of an integer. -/
def tidied? (cs : List Char) : Option (List Char) :=
  let (negative, digits) := splitMinus (withoutPlus (strip isSpace cs))
  (withoutZeros? digits).map fun digits =>
    let tidy := withoutUnderscores (withoutZeroFraction digits)
    if negative then '-' :: tidy else tidy

/-- **The integer that a text writes**, in its plain form or after it has
been tidied. Only a text that starts with too many digits as it stands is
oversized; one that has to be tidied and is too long is unreadable. -/
def readInteger (cs : List Char) : Except IntegerFault Int :=
  match plainInteger cs with
  | .error .unreadable => match (tidied? cs).map plainInteger with
    | some (.ok n) => .ok n
    | _ => .error .unreadable
  | r => r

end Text

end NetSteward
