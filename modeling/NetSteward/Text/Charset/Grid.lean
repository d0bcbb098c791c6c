/-!
# Grids of characters

The large sets of East Asia order their characters in rows of cells. A
text writes the numbers of row and cell, each in a byte, and the schemes
that do so differ in how a byte gives such a number.
-/

namespace NetSteward

/-- Characters in rows of cells. -/
structure Grid where
  /-- The rows that follow one on another, behind the number of the first
  of them. A point is in the place of a cell that is empty. -/
  sections : List (Nat × List String)

namespace Grid

/-- The code point of the character at a place, unless that is empty. -/
def pointIn? (text : String) (place : Nat) : Option Nat :=
  (text.toList[place]?).bind fun c => if c = '.' then none else some c.toNat

/-- The code point in a cell, counted from zero. -/
def point? (g : Grid) (row cell : Nat) : Option Nat :=
  g.sections.findSome? fun (first, rows) =>
    if row < first then none
    else (rows[row - first]?).bind fun text => pointIn? text cell

/-- The code points of some rows, in order. -/
def points (g : Grid) (rows : List Nat) : List Nat :=
  rows.flatMap fun row => (List.range 94).filterMap (g.point? row)

/-- The number in a byte that counts from the first printable sign of
ASCII, or from there in the upper half. -/
def position? (b : Nat) : Option Nat :=
  if 0x21 ≤ b ∧ b ≤ 0x7E then some (b - 0x21) else none

/-- The code point that two bytes write in a grid of 94 rows, the first of
which has the number one. -/
def pair? (g : Grid) (b c : Nat) : Option Nat := do
  let row ← position? b
  let cell ← position? c
  g.point? (row + 1) cell

/-- The code point that two bytes of the upper half write. -/
def upperPair? (g : Grid) (b c : Nat) : Option Nat :=
  if 128 ≤ b ∧ 128 ≤ c then g.pair? (b - 128) (c - 128) else none

/-- The code point at a place among runs of characters, each behind the
place of its first. -/
def atRun? (runs : List (Nat × String)) (place : Nat) : Option Nat :=
  runs.findSome? fun (first, text) =>
    if place < first then none else pointIn? text (place - first)

/-- The number that has a place among those from `next` on that are not
listed. The list is in ascending order. -/
def unlisted (next place : Nat) : List Nat → Nat
  | [] => next + place
  | n :: listed =>
    if next + place < n then next + place else unlisted (n + 1) (place - (n - next)) listed

end Grid

end NetSteward
