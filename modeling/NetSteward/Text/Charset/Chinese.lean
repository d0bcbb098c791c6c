import NetSteward.Text.Charset.Big5
import NetSteward.Text.Charset.Gb18030
import NetSteward.Text.Charset.Gb2312
import NetSteward.Text.Charset.Gbk
import NetSteward.Text.Charset.Hkscs
import NetSteward.Text.Charset.Multibyte
/-!
# Chinese character sets

GB 2312 has been extended twice: GBK gives the free pairs of bytes to the
ideographs that are missing, in order, and GB 18030 gives the rest of them
to private use and all other characters four bytes each. Big5 has the
traditional ideographs, and two extensions of its own.
-/

namespace NetSteward

namespace Chinese

/-! ## GB -/

/-- GB 2312. -/
def simplified : Multibyte where
  name := "gb2312"
  aliases := ["chinese", "csiso58gb231280", "euc_cn", "euccn", "eucgb2312_cn", "gb2312_1980",
    "gb2312_80", "iso_ir_58", "x_mac_simp_chinese"]
  decode := Multibyte.ofSteps (Multibyte.pairStep Grid.gb2312.upperPair?)

/-- The ideographs of GB 2312 in the order of their code points. -/
def usualIdeographs : List Nat := (Grid.gb2312.points (List.range' 16 72)).mergeSort

/-- The first and the last ideograph of those in order. -/
def ideographs : Nat × Nat := (0x4E00, 0x9FA5)

/-- How many second bytes stand before one. -/
def trail? (c : Nat) : Option Nat :=
  if 0x40 ≤ c ∧ c ≤ 0x7E then some (c - 0x40)
  else if 0x80 ≤ c ∧ c ≤ 0xFE then some (c - 0x41)
  else none

/-- The ideograph outside GB 2312 that two bytes write: with the first 32
first bytes all second bytes are free, and with later ones those before
the cells of GB 2312. -/
def unusualIdeograph? (b c : Nat) : Option Nat := do
  let trail ← trail? c
  let place ←
    if 0x81 ≤ b ∧ b ≤ 0xA0 then some ((b - 0x81) * 190 + trail)
    else if 0xAA ≤ b ∧ b ≤ 0xFE ∧ trail < 96 then some (32 * 190 + (b - 0xAA) * 96 + trail)
    else none
  let n := Grid.unlisted ideographs.1 place usualIdeographs
  if n ≤ ideographs.2 then some n else none

/-- The character of GBK that two bytes write. -/
def extendedPair? (b c : Nat) : Option Nat :=
  (((trail? c).bind (Grid.gbkSigns.point? b)).or (Grid.gb2312.upperPair? b c)).or
    (unusualIdeograph? b c)

/-- GBK. -/
def extended : Multibyte where
  name := "gbk"
  aliases := ["936", "cp936", "ms936"]
  decode := Multibyte.ofSteps (Multibyte.pairStep extendedPair?)

/-! ## GB 18030 -/

/-- The pairs that GBK leaves free in rows that it uses. -/
def freePairs : List (Nat × Nat) :=
  ([0xA2, 0xA4, 0xA5, 0xA6, 0xA7, 0xA8, 0xA9, 0xD7, 0xFE].flatMap fun b =>
    (List.range' 0x40 191).filterMap fun c =>
      let isSecondHalf := 0xA1 ≤ c
      let isOutside := if b = 0xFE then isSecondHalf else b ≠ 0xA8 && b ≠ 0xA9 && !isSecondHalf
      if isOutside || (trail? c).isNone || (extendedPair? b c).isSome then none else some (b, c))

/-- The character for private use that two bytes write. -/
def private? (b c : Nat) : Option Nat := do
  let trail ← trail? c
  if 0xAA ≤ b ∧ b ≤ 0xAF ∧ 96 ≤ trail then some (0xE000 + (b - 0xAA) * 94 + (trail - 96))
  else if 0xF8 ≤ b ∧ b ≤ 0xFE ∧ 96 ≤ trail then some (0xE234 + (b - 0xF8) * 94 + (trail - 96))
  else if 0xA1 ≤ b ∧ b ≤ 0xA7 ∧ trail < 96 then some (0xE4C6 + (b - 0xA1) * 96 + trail)
  else (freePairs.findIdx? (· == (b, c))).map (0xE766 + ·)

/-- The character that two bytes write. -/
def fullPair? (b c : Nat) : Option Nat :=
  ((extendedPair? b c).or (Grid.atRun? Grid.gb18030Signs (256 * b + c))).or (private? b c)

/-- The number that four bytes write, the second and the fourth of which are
digits. -/
def fourBytes? (b c d e : Nat) : Option Nat :=
  if 0x81 ≤ b ∧ b ≤ 0xFE ∧ 0x30 ≤ c ∧ c ≤ 0x39 ∧ 0x81 ≤ d ∧ d ≤ 0xFE ∧ 0x30 ≤ e ∧ e ≤ 0x39 then
    some (((b - 0x81) * 10 + (c - 0x30)) * 1260 + (d - 0x81) * 10 + (e - 0x30))
  else none

/-- The number of four bytes from which on they write the code points behind
the first plane. -/
def firstBeyond : Nat := 189000

/-- The code point that four bytes write. -/
def ofNumber? (n : Nat) : Option Nat :=
  if n < Grid.gb18030Count then
    (Grid.gb18030Runs.reverse.find? (·.1 ≤ n)).map fun (first, point) => point + (n - first)
  else if firstBeyond ≤ n ∧ n < firstBeyond + 0x100000 then some (0x10000 + (n - firstBeyond))
  else none

/-- A step in GB 18030. -/
def fullStep (b : Nat) (rest : List Nat) : Option (List Nat × Nat) :=
  match rest with
  | c :: more =>
    if b < 128 ∨ c < 0x30 ∨ 0x39 < c then Multibyte.pairStep fullPair? b rest
    else match more with
      | d :: e :: _ => ((fourBytes? b c d e).bind ofNumber?).map fun n => ([n], 3)
      | _ => none
  | [] => Multibyte.pairStep fullPair? b []

/-- GB 18030. -/
def full : Multibyte where
  name := "gb18030"
  aliases := ["gb18030_2000"]
  decode := Multibyte.ofSteps fullStep

/-! ## Big5 -/

/-- The cell of a row that a second byte tells. -/
def traditionalCell? (c : Nat) : Option Nat :=
  if 0x40 ≤ c ∧ c ≤ 0x7E then some (c - 0x40)
  else if 0xA1 ≤ c ∧ c ≤ 0xFE then some (c - 0xA1 + 63)
  else none

/-- The character that two bytes write in a grid with a row for each first
byte. -/
def traditionalPair? (g : Grid) (b c : Nat) : Option Nat := (traditionalCell? c).bind (g.point? b)

/-- Big5. -/
def traditional : Multibyte where
  name := "big5"
  aliases := ["big5_tw", "csbig5", "x_mac_trad_chinese"]
  decode := Multibyte.ofSteps (Multibyte.pairStep (traditionalPair? Grid.big5))

/-- The characters that code page 950 has in other places than Big5, or
besides. -/
def replaced : List (Nat × String) :=
  [(0xA145, "‧"), (0xA14E, "﹑"), (0xA1C2, "¯"), (0xA1E3, "～"), (0xA1F2, "⊕⊙"),
    (0xA241, "∕﹨"), (0xA244, "￥"), (0xA246, "￠￡"), (0xA3E1, "€"),
    (0xF9D6, "碁銹裏墻恒粧嫺╔╦╗╠╬╣╚╩╝╒╤╕╞╪╡╘╧╛╓╥╖╟╫╢╙╨╜║═╭╮╰╯▓")]

/-- Code page 950. -/
def desktop : Multibyte where
  name := "cp950"
  aliases := ["950", "ms950"]
  decode := Multibyte.ofSteps (Multibyte.pairStep fun b c =>
    (Grid.atRun? replaced (256 * b + c)).or (traditionalPair? Grid.big5 b c))

/-- The letters with two marks, each by its pair of bytes. -/
def marked : List (Nat × List Nat) :=
  [(0x8862, [0xCA, 0x304]), (0x8864, [0xCA, 0x30C]), (0x88A3, [0xEA, 0x304]),
    (0x88A5, [0xEA, 0x30C])]

/-- The code points that two bytes write in Hong Kong, where some rows of
Big5 are filled anew. -/
def localPair? (b c : Nat) : Option (List Nat) :=
  let isAnew := b = 0xC6 ∧ 0xA1 ≤ c ∨ b = 0xC7 ∨ b = 0xC8
  let usual := if isAnew then none else traditionalPair? Grid.big5 b c
  ((usual.or (traditionalPair? Grid.hkscs b c)).map ([·])).or
    ((marked.find? (·.1 == 256 * b + c)).map (·.2))

/-- Big5 as it is used in Hong Kong. -/
def regional : Multibyte where
  name := "big5hkscs"
  aliases := ["big5_hkscs", "hkscs"]
  decode := Multibyte.ofSteps fun b rest =>
    if b < 128 then some ([b], 0)
    else match rest with
      | [] => none
      | c :: _ => (localPair? b c).map fun points => (points, 1)

/-- The Chinese sets that need no commands in a text. -/
def sets : List Multibyte := [simplified, extended, full, traditional, desktop, regional]

end Chinese

end NetSteward
