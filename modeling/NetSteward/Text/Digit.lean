/-!
# Decimal digits

Every script with decimal digits has its ten digits in a row, so a table
of the zeros gives the value of each digit.
-/

namespace NetSteward

namespace Text

/-- The code points of the decimal zeros of all scripts. -/
def decimalZeros : List Nat := [
  48, 1632, 1776, 1984, 2406, 2534, 2662, 2790, 2918, 3046, 3174, 3302, 3430, 3558, 3664,
   3792, 3872, 4160, 4240, 6112, 6160, 6470, 6608, 6784, 6800, 6992, 7088, 7232, 7248,
   42528, 43216, 43264, 43472, 43504, 43600, 44016, 65296, 66720, 68912, 69734, 69872,
   69942, 70096, 70384, 70736, 70864, 71248, 71360, 71472, 71904, 72016, 72784, 73040,
   73120, 92768, 92864, 93008, 120782, 120792, 120802, 120812, 120822, 123200, 123632,
   125264, 130032]

/-- The value of an ASCII digit. -/
def asciiDigit? (c : Char) : Option Nat :=
  if '0' ≤ c ∧ c ≤ '9' then some (c.toNat - '0'.toNat) else none

/-- The number that a run of ASCII digits writes. -/
def digitsValue (cs : List Char) : Nat :=
  cs.foldl (fun n c => 10 * n + (c.toNat - '0'.toNat)) 0

/-- The value of a decimal digit of any script. -/
def decimalDigit? (c : Char) : Option Nat :=
  match decimalZeros.find? fun z => z ≤ c.toNat && c.toNat ≤ z + 9 with
  | some z => some (c.toNat - z)
  | none => none

/-- The value of a hexadecimal digit, in either case. -/
def hexDigit? (c : Char) : Option Nat :=
  if '0' ≤ c ∧ c ≤ '9' then some (c.toNat - '0'.toNat)
  else if 'a' ≤ c ∧ c ≤ 'f' then some (c.toNat - 'a'.toNat + 10)
  else if 'A' ≤ c ∧ c ≤ 'F' then some (c.toNat - 'A'.toNat + 10)
  else none

/-- The lower-case hexadecimal digit of a number below sixteen. -/
def hexDigit (n : Nat) : Char := Nat.digitChar n

/-- The number that a run of decimal digits writes, if it is one: one
underscore may stand between two digits. -/
def groupedDigits? (digit? : Char → Option Nat) : List Char → Option Nat
  | [] => none
  | c :: rest => match digit? c with
    | none => none
    | some d => go d rest
where
  /-- Reads on after a digit, with the value so far. -/
  go (value : Nat) : List Char → Option Nat
    | [] => some value
    | '_' :: c :: rest => match digit? c with
      | none => none
      | some d => go (10 * value + d) rest
    | c :: rest => match digit? c with
      | none => none
      | some d => go (10 * value + d) rest

/-- The integer that a sign and a run of digits write. -/
def signedDigits? (digit? : Char → Option Nat) : List Char → Option Int
  | '+' :: rest => (groupedDigits? digit? rest).map Int.ofNat
  | '-' :: rest => (groupedDigits? digit? rest).map fun n => -(n : Int)
  | cs => (groupedDigits? digit? cs).map Int.ofNat

end Text

end NetSteward
