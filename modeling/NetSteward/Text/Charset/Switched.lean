import NetSteward.Text.Charset.Chinese
import NetSteward.Text.Charset.Iso
import NetSteward.Text.Charset.Japanese
import NetSteward.Text.Charset.Korean
/-!
# Switching between character sets

A text in bytes of seven bits can hold characters of many sets when
commands in it tell which set the next bytes belong to. Behind an escape
byte such a command names a set and the place that it takes: the set in
the first place is read at once, that in the second while a text is
shifted, and that in the third for one character behind a command of its
own. In a plainer scheme, pairs of bytes stand between two marks that
start with a tilde.
-/

namespace NetSteward

namespace Switched

/-! ## Sets that take a place -/

/-- A set that a command can name. -/
inductive Part
  | ascii
  /-- The two halves of JIS X 0201. -/
  | roman
  | kana
  /-- The two editions of JIS X 0208 that have a name of their own. -/
  | kanjiOld
  | kanji
  | kanjiMore
  /-- The planes of JIS X 0213, the first in two editions. -/
  | planeOld
  | plane
  | planeSecond
  | korean
  | chinese
  /-- The upper halves of two sets of Europe. -/
  | western
  | greek
deriving DecidableEq

namespace Part

/-- The last byte of a command that names the set. -/
def name : Part → Char
  | ascii => 'B'
  | roman => 'J'
  | kana => 'I'
  | kanjiOld => '@'
  | kanji => 'B'
  | kanjiMore => 'D'
  | planeOld => 'O'
  | plane => 'Q'
  | planeSecond => 'P'
  | korean => 'C'
  | chinese => 'A'
  | western => 'A'
  | greek => 'F'

/-- Whether a character takes one byte. -/
def isNarrow : Part → Bool
  | ascii | roman | kana | western | greek => true
  | _ => false

/-- The character of one byte. -/
def single? (b : Nat) : Part → Option Nat
  | ascii => some b
  | roman => some (Japanese.roman b)
  | kana => Japanese.kana? (b + 128)
  | _ => none

/-- The code points in a cell of the first plane, where the wide tilde is
that of ASCII. -/
def commandedPlane? (edition : Japanese.Edition) (row cell : Nat) : Option (List Nat) :=
  if row = 2 ∧ cell = 17 then some [0x7E] else Japanese.firstPlane? edition row cell

/-- The code points of two bytes. -/
def pair? (b c : Nat) (p : Part) : Option (List Nat) := do
  let row ← Grid.position? b
  let cell ← Grid.position? c
  match p with
  | kanjiOld | kanji => (Grid.jis0208.point? (row + 1) cell).map ([·])
  | kanjiMore => (Grid.jis0212.point? (row + 1) cell).map ([·])
  | planeOld => commandedPlane? .first (row + 1) cell
  | plane => commandedPlane? .second (row + 1) cell
  | planeSecond => Japanese.secondPlane? .second (row + 1) cell
  | korean => (Grid.ksx1001.point? (row + 1) cell).map ([·])
  | chinese => (Grid.gb2312.point? (row + 1) cell).map ([·])
  | _ => none

/-- The character of one byte while the set is in the third place, where
only sets of one byte can be read. The Greek set is that before the three
signs were added that its code page has. -/
def third (b : Nat) : Part → Except Charset.Fault Nat
  | ascii => if b < 128 then .ok b else .error .malformed
  | western => if b < 128 then .ok (b + 128) else .error .malformed
  | greek => Charset.wellFormed <|
    if 128 ≤ b then some (b - 128)
    else if [0x24, 0x25, 0x2A].contains b then none
    else (CodePage.iso7.decode? [(b + 128).toUInt8]).bind fun cs => cs.head?.map Char.toNat
  | _ => .error .refused

end Part

/-! ## Commands -/

/-- A scheme of commands. -/
structure Scheme where
  /-- The sets that can be named besides ASCII. -/
  parts : List Part
  /-- Whether a text can be shifted. -/
  hasShift : Bool
  /-- Whether there is a third place. -/
  hasThird : Bool
  /-- Whether the newer edition of JIS X 0208 can be announced. -/
  hasAnnouncer : Bool

/-- Where a text stands. -/
structure State where
  first : Part
  second : Part
  third : Part
  isShifted : Bool
  /-- Whether the bytes of a command that is not known are passed over to
  the text. -/
  isPassing : Bool

/-- The state at the start of a text. -/
def State.start : State := ⟨.ascii, .ascii, .ascii, false, false⟩

/-- The escape byte. -/
def escape : Nat := 0x1B

/-- Whether a byte ends a command. -/
def isEnd (b : Nat) : Bool := 0x40 ≤ b && b ≤ 0x5A

/-- The set of a scheme that a last byte names. -/
def Scheme.part? (s : Scheme) (isNarrow : Bool) (last : Nat) : Option Part :=
  (Part.ascii :: s.parts).find? fun p => p.isNarrow == isNarrow && p.name.toNat == last

/-- Whether bytes announce the newer edition of JIS X 0208 and name it: a
command of two bytes that has no end or the end that is meant for this, and
the command for the set. -/
def announces : List Char → Bool
  | kind :: last :: '\x1b' :: '$' :: 'B' :: _ =>
    !isEnd last.toNat || (kind == '&' && last == '@')
  | _ => false

/-- The command that the bytes behind an escape byte write: the state after
it, and how many bytes it has. -/
def Scheme.command? (s : Scheme) (state : State) (bytes : List Nat) : Option (State × Nat) :=
  let first p := { state with first := p }
  let second p := { state with second := p }
  let signs := (bytes.take 5).map Char.ofNat
  if s.hasAnnouncer && announces signs then some (first .kanji, 5)
  else match signs with
    | '$' :: '(' :: last :: _ => (s.part? false last.toNat).map fun p => (first p, 3)
    | '$' :: ')' :: last :: _ => (s.part? false last.toNat).map fun p => (second p, 3)
    | '$' :: last :: _ => (s.part? false last.toNat).map fun p => (first p, 2)
    | '(' :: last :: _ => (s.part? true last.toNat).map fun p => (first p, 2)
    | ')' :: last :: _ => (s.part? true last.toNat).map fun p => (second p, 2)
    | '.' :: last :: _ =>
      if s.hasThird then (s.part? true last.toNat).map fun p => ({ state with third := p }, 2)
      else none
    | _ => none

/-- A step over bytes that are read as they are. -/
def plain (b : Nat) (state : State) : Multibyte.Step State := ⟨[b], 0, state⟩

/-- A step over an escape byte. -/
def Scheme.escapeStep (s : Scheme) (state : State) (rest : List Nat) :
    Except Charset.Fault (Multibyte.Step State) :=
  match rest with
  | [] => .error .malformed
  | b :: more =>
    if [0x28, 0x29, 0x24, 0x2E, 0x26].contains b then
      Charset.wellFormed ((s.command? state rest).map fun (state, width) => ⟨[], width, state⟩)
    else if s.hasThird ∧ b = 0x4E then match more with
      | [] => .error .malformed
      | c :: _ => (state.third.third c).map fun n => ⟨[n], 2, state⟩
    else .ok (plain escape { state with isPassing := true })

/-- A step in a text. A line end takes back a shift. -/
def Scheme.step (s : Scheme) (state : State) (b : Nat) (rest : List Nat) :
    Except Charset.Fault (Multibyte.Step State) :=
  if state.isPassing then .ok (plain b { state with isPassing := !isEnd b })
  else if b = escape then s.escapeStep state rest
  else if s.hasShift ∧ (b = 0x0E ∨ b = 0x0F) then
    .ok ⟨[], 0, { state with isShifted := b == 0x0E }⟩
  else if b = 0x0A then .ok (plain b { state with isShifted := false })
  else if b < 0x20 then .ok (plain b state)
  else if 128 ≤ b then .error .malformed
  else
    let part := if state.isShifted then state.second else state.first
    Charset.wellFormed <|
      if part.isNarrow then (part.single? b).map fun n => plain n state
      else match rest with
        | [] => none
        | c :: _ => (part.pair? b c).map fun points => ⟨points, 1, state⟩

/-- The set with names whose texts have commands of a scheme. -/
def Scheme.set (s : Scheme) (name : String) (aliases : List String) : Multibyte where
  name := name
  aliases := aliases
  decode := fun bytes => Multibyte.run s.step State.start 0 (bytes.map UInt8.toNat)

/-- A Japanese scheme. -/
def japanese (parts : List Part) : Scheme := ⟨parts, false, false, true⟩

/-- The sets with commands. -/
def commanded : List Multibyte :=
  [(japanese [.kanji, .roman, .kanjiOld]).set "iso2022_jp"
      ["csiso2022jp", "iso2022jp", "iso_2022_jp"],
    (japanese [.kanji, .kanjiMore, .roman, .kanjiOld]).set "iso2022_jp_1"
      ["iso2022jp_1", "iso_2022_jp_1"],
    (⟨[.kanji, .kanjiMore, .korean, .chinese, .roman, .kanjiOld, .western, .greek], false, true,
      true⟩ : Scheme).set "iso2022_jp_2" ["iso2022jp_2", "iso_2022_jp_2"],
    (japanese [.plane, .kanji, .planeSecond]).set "iso2022_jp_2004"
      ["iso2022jp_2004", "iso_2022_jp_2004"],
    (japanese [.planeOld, .kanji, .planeSecond]).set "iso2022_jp_3"
      ["iso2022jp_3", "iso_2022_jp_3"],
    (japanese [.kanji, .kanjiMore, .roman, .kana, .kanjiOld]).set "iso2022_jp_ext"
      ["iso2022jp_ext", "iso_2022_jp_ext"],
    (⟨[.korean], true, false, false⟩ : Scheme).set "iso2022_kr"
      ["csiso2022kr", "iso2022kr", "iso_2022_kr"]]

/-! ## Marks with a tilde -/

/-- A step in a text whose pairs stand between marks. The state tells
whether a text is between them. -/
def markStep (isInside : Bool) (b : Nat) (rest : List Nat) :
    Option (Multibyte.Step Bool) :=
  let isMark (c : Nat) (last : Char) := b == 0x7E && c == last.toNat
  match rest with
  | [] => if isInside ∨ b = 0x7E ∨ 128 ≤ b then none else some ⟨[b], 0, false⟩
  | c :: _ =>
    if isInside then
      if isMark c '\x7d' then some ⟨[], 1, false⟩
      else if 128 ≤ b then none
      else (Grid.gb2312.pair? b c).map fun n => ⟨[n], 1, true⟩
    else if isMark c '~' then some ⟨[b], 1, false⟩
    else if isMark c '\x7b' then some ⟨[], 1, true⟩
    else if isMark c '\n' then some ⟨[], 1, false⟩
    else if b = 0x7E ∨ 128 ≤ b then none
    else some ⟨[b], 0, false⟩

/-- GB 2312 between marks. -/
def marked : Multibyte where
  name := "hz"
  aliases := ["hz_gb", "hz_gb_2312", "hzgb"]
  decode := fun bytes =>
    Multibyte.run (fun isInside b rest => Charset.wellFormed (markStep isInside b rest)) false 0
      (bytes.map UInt8.toNat)

/-- The sets that a text switches between. -/
def sets : List Multibyte := commanded ++ [marked]

end Switched

end NetSteward
