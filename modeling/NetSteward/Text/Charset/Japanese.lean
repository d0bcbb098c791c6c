import NetSteward.Text.Charset.Jis0208
import NetSteward.Text.Charset.Jis0212
import NetSteward.Text.Charset.Jis0213
import NetSteward.Text.Charset.MakerRows
import NetSteward.Text.Charset.Multibyte
/-!
# Japanese character sets

Two schemes write the rows and cells of the Japanese sets. EUC has a byte
of the upper half for each, and marks before the narrow kana and before
characters of a second set. Shift JIS keeps a byte for each narrow kana
and puts the first byte of a pair around them, so that two rows share it.
-/

namespace NetSteward

namespace Japanese

/-- The narrow kana of a byte. -/
def kana? (b : Nat) : Option Nat :=
  if 0xA1 ≤ b ∧ b ≤ 0xDF then some (b - 0xA1 + 0xFF61) else none

/-- An edition of JIS X 0213. -/
inductive Edition
  | first
  | second
deriving DecidableEq

/-- The cells of the first plane that only the second edition has. -/
def added : List (Nat × Nat) :=
  [(14, 0), (15, 93), (47, 51), (47, 93), (84, 6), (94, 89), (94, 90), (94, 91), (94, 92),
    (94, 93)]

/-- The code points in a cell of the first plane of JIS X 0213. -/
def firstPlane? (edition : Edition) (row cell : Nat) : Option (List Nat) :=
  if edition = .first ∧ added.contains (row, cell) then none
  else match (Grid.jis0208.point? row cell).or (Grid.jis0213First.point? row cell) with
    | some n => some [n]
    | none => (Grid.jis0213Pairs.find? fun e => e.1 == row && e.2.1 == cell).map fun e =>
      [e.2.2.1, e.2.2.2]

/-- The code points in a cell of the second plane of JIS X 0213. The
editions differ in one. -/
def secondPlane? (edition : Edition) (row cell : Nat) : Option (List Nat) :=
  if edition = .first ∧ row = 93 ∧ cell = 26 then some [0x9B1D]
  else (Grid.jis0213Second.point? row cell).map ([·])

/-! ## EUC -/

/-- The row and the cell that two bytes of the upper half write. -/
def upperCell? (b c : Nat) : Option (Nat × Nat) :=
  if b < 128 ∨ c < 128 then none
  else do
    let row ← Grid.position? (b - 128)
    let cell ← Grid.position? (c - 128)
    return (row + 1, cell)

/-- A step in EUC, given the characters that two bytes write alone and
behind the mark of the second set. -/
def eucStep (first second : Nat → Nat → Option (List Nat)) (b : Nat) (rest : List Nat) :
    Option (List Nat × Nat) :=
  if b < 128 then some ([b], 0)
  else match rest with
    | [] => none
    | c :: more =>
      if b = 0x8E then (kana? c).map fun n => ([n], 1)
      else if b = 0x8F then match more with
        | [] => none
        | d :: _ => do
          let (row, cell) ← upperCell? c d
          let points ← second row cell
          return (points, 2)
      else do
        let (row, cell) ← upperCell? b c
        let points ← first row cell
        return (points, 1)

/-- EUC with the two older sets. -/
def euc : Multibyte where
  name := "euc_jp"
  aliases := ["eucjp", "u_jis", "ujis"]
  decode := Multibyte.ofSteps (eucStep
    (fun row cell => (Grid.jis0208.point? row cell).map ([·]))
    (fun row cell => (Grid.jis0212.point? row cell).map ([·])))

/-- Reads EUC with an edition of JIS X 0213. The older supplement fills the
empty cells of its second plane. -/
def decodeEuc (edition : Edition) : Bytes → Except Charset.Fault (List Nat) :=
  Multibyte.ofSteps (eucStep (firstPlane? edition) fun row cell =>
    (secondPlane? edition row cell).or ((Grid.jis0212.point? row cell).map ([·])))

/-- EUC with the first edition of JIS X 0213. -/
def eucFirst : Multibyte where
  name := "euc_jisx0213"
  aliases := ["eucjisx0213"]
  decode := decodeEuc .first

/-- EUC with the second edition of JIS X 0213. -/
def eucSecond : Multibyte where
  name := "euc_jis_2004"
  aliases := ["euc_jis2004", "eucjis2004", "jisx0213"]
  decode := decodeEuc .second

/-! ## Shift JIS -/

/-- The row, the first of all being one, and the cell that two bytes
write. -/
def shiftedCell? (b c : Nat) : Option (Nat × Nat) :=
  let isLead := 0x81 ≤ b ∧ b ≤ 0x9F ∨ 0xE0 ≤ b ∧ b ≤ 0xFC
  if !isLead || c < 0x40 || c == 0x7F || 0xFC < c then none
  else
    let double := if b < 0xE0 then b - 0x81 else b - 0xC1
    let place := if c < 0x7F then c - 0x40 else c - 0x41
    some (2 * double + place / 94 + 1, place % 94)

/-- A step in Shift JIS, given the character of a byte that stands alone
and those of a cell. -/
def shiftStep (single? : Nat → Option Nat) (cell? : Nat → Nat → Option (List Nat)) (b : Nat)
    (rest : List Nat) : Option (List Nat × Nat) :=
  match single? b, rest with
  | some n, _ => some ([n], 0)
  | none, [] => none
  | none, c :: _ => do
    let (row, cell) ← shiftedCell? b c
    let points ← cell? row cell
    return (points, 1)

/-- The character of a byte of ASCII or narrow kana. -/
def narrow? (b : Nat) : Option Nat := if b < 128 then some b else kana? b

/-- The character of a byte of the Latin half of JIS X 0201, which has two
signs of its own. -/
def roman (b : Nat) : Nat :=
  if b = 0x5C then 0xA5 else if b = 0x7E then 0x203E else b

/-- Shift JIS. -/
def shift : Multibyte where
  name := "shift_jis"
  aliases := ["csshiftjis", "s_jis", "shiftjis", "sjis", "x_mac_japanese"]
  decode := Multibyte.ofSteps (shiftStep narrow? fun row cell =>
    (Grid.jis0208.point? row cell).map ([·]))

/-- The row of the second plane that a row behind the 94 of the first
stands for. Only the rows in use are there: some of the first, and all
from 78 on. -/
def secondRow (row : Nat) : Nat :=
  ([1, 8, 3, 4, 5, 12, 13, 14, 15][row - 95]?).getD (row - 26)

/-- The code points in a cell of both planes. The two signs of ASCII that
have no byte of their own are in the place of their wide forms. -/
def bothPlanes? (edition : Edition) (row cell : Nat) : Option (List Nat) :=
  if row = 1 ∧ cell = 31 then some [0x5C]
  else if row = 2 ∧ cell = 17 then some [0x7E]
  else if row ≤ 94 then firstPlane? edition row cell
  else secondPlane? edition (secondRow row) cell

/-- Reads Shift JIS with an edition of JIS X 0213. -/
def decodeShift (edition : Edition) : Bytes → Except Charset.Fault (List Nat) :=
  Multibyte.ofSteps (shiftStep (fun b => if b < 128 then some (roman b) else kana? b)
    (bothPlanes? edition))

/-- Shift JIS with the first edition of JIS X 0213. -/
def shiftFirst : Multibyte where
  name := "shift_jisx0213"
  aliases := ["s_jisx0213", "shiftjisx0213", "sjisx0213"]
  decode := decodeShift .first

/-- Shift JIS with the second edition of JIS X 0213. -/
def shiftSecond : Multibyte where
  name := "shift_jis_2004"
  aliases := ["s_jis_2004", "shiftjis2004", "sjis_2004"]
  decode := decodeShift .second

/-! ## Code page 932 -/

/-- The character of a byte that stands alone: the first and the last bytes
have characters of their own. -/
def makersNarrow? (b : Nat) : Option Nat :=
  if b ≤ 0x80 then some b
  else if b = 0xA0 then some 0xF8F0
  else if 0xFD ≤ b then some (b - 0xFD + 0xF8F1)
  else kana? b

/-- The character of a cell: the rows behind the first 94 are for private
use, but for the last. -/
def makersCell? (row cell : Nat) : Option Nat :=
  if 95 ≤ row ∧ row ≤ 114 then some (0xE000 + 94 * (row - 95) + cell)
  else (Grid.makerRows.point? row cell).or (Grid.jis0208.point? row cell)

/-- Shift JIS with the characters of makers of computers. -/
def makersShift : Multibyte where
  name := "cp932"
  aliases := ["932", "ms932", "ms_kanji", "mskanji"]
  decode := Multibyte.ofSteps (shiftStep makersNarrow? fun row cell =>
    (makersCell? row cell).map ([·]))

/-- The Japanese sets that need no commands in a text. -/
def sets : List Multibyte := [euc, eucFirst, eucSecond, shift, shiftFirst, shiftSecond, makersShift]

end Japanese

end NetSteward
