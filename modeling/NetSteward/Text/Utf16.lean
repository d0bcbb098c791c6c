/-!
# UTF-16

A code point is written as one unit of sixteen bits or as a pair of
halves. Escapes in JSON are written in units, and so are texts in UTF-16.
Half of a pair can stand alone there although it is no character; it
counts as a code point of its own.
-/

namespace NetSteward

namespace Utf16

/-- Whether a unit is the first half of a pair. -/
def isHigh (n : Nat) : Bool := 0xD800 ≤ n && n < 0xDC00

/-- Whether a unit is the second half of a pair. -/
def isLow (n : Nat) : Bool := 0xDC00 ≤ n && n < 0xE000

/-- Whether a unit is half of a pair. -/
def isHalf (n : Nat) : Bool := 0xD800 ≤ n && n < 0xE000

/-- The code point of a pair of halves. -/
def pair (high low : Nat) : Nat := 0x10000 + (high - 0xD800) * 1024 + (low - 0xDC00)

/-- The units of a code point. -/
def units (n : Nat) : List Nat :=
  if n < 0x10000 then [n]
  else [0xD800 + (n - 0x10000) / 1024, 0xDC00 + (n - 0x10000) % 1024]

/-- The code points that units write. -/
def ofUnits : List Nat → List Nat
  | [] => []
  | [n] => [n]
  | n :: m :: rest =>
    if isHigh n && isLow m then pair n m :: ofUnits rest else n :: ofUnits (m :: rest)

/-- A pair writes what its halves add to the first of each kind. -/
theorem pair_add (q r : Nat) : pair (0xD800 + q) (0xDC00 + r) = 0x10000 + q * 1024 + r := by
  have general (a b : Nat) :
      0x10000 + (a + q - a) * 1024 + (b + r - b) = 0x10000 + q * 1024 + r := by
    rw [Nat.add_sub_cancel_left, Nat.add_sub_cancel_left]
  exact general 0xD800 0xDC00

end Utf16

end NetSteward
