import NetSteward.Text.Charset.Prepared
import NetSteward.Text.Utf8
/-!
# Punycode

Punycode writes a text in letters, digits and hyphens. What stands before
the last hyphen is taken over; the rest are numbers in base 36, each of
which says where the next code point is to be put and how much greater
it is. The digits of a number have weights that adapt to the numbers
before. `encode` writes and `decode` reads. A host name is written label
by label: one that is not plain has a mark before its punycode.
-/

namespace NetSteward

namespace Punycode

/-- Why a text of bytes is not read. -/
inductive Fault
  /-- There is a byte that is not ASCII. -/
  | malformed
  /-- The numbers do not write code points. -/
  | unreadable
deriving DecidableEq

/-- The value of a digit in base 36, in either case. -/
def digit? (b : UInt8) : Option Nat :=
  let n := b.toNat
  if 65 ≤ n ∧ n ≤ 90 then some (n - 65)
  else if 97 ≤ n ∧ n ≤ 122 then some (n - 97)
  else if 48 ≤ n ∧ n ≤ 57 then some (n - 22)
  else none

/-- The greatest value of the last digit of a number, by its place. -/
def threshold (place bias : Nat) : Nat :=
  min 26 (max 1 (36 * (place + 1) - bias))

/-- The number at the start of some bytes, from a digit on. -/
def number (bias : Nat) : (place weight value : Nat) → Bytes → Except Fault (Nat × Bytes)
  | _, _, _, [] => .error .unreadable
  | place, weight, value, b :: rest => match digit? b with
    | none => .error .unreadable
    | some d =>
      let value := value + d * weight
      if d < threshold place bias then .ok (value, rest)
      else number bias (place + 1) (weight * (36 - threshold place bias)) value rest

/-- How often a number is divided until it is small, and what is left. -/
def reduced : (fuel divisions n : Nat) → Nat × Nat
  | 0, divisions, n => (divisions, n)
  | fuel + 1, divisions, n =>
    if 455 < n then reduced fuel (divisions + 36) (n / 35) else (divisions, n)

/-- The bias after a number. -/
def adapted (delta : Nat) (isFirst : Bool) (size : Nat) : Nat :=
  let delta := if isFirst then delta / 700 else delta / 2
  let delta := delta + delta / size
  let (divisions, delta) := reduced delta 0 delta
  divisions + 36 * delta / (delta + 38)

/-- The code points after all numbers have been read. `next` is the place
after the last insertion; the first argument bounds the count of
numbers. -/
def inserted : Nat → (next point bias : Nat) → (isFirst : Bool) → List Nat → Bytes →
    Except Fault (List Nat)
  | 0, _, _, _, _, points, _ => .ok points
  | _ + 1, _, _, _, _, points, [] => .ok points
  | fuel + 1, next, point, bias, isFirst, points, b :: bytes => do
    let (delta, rest) ← number bias 0 1 0 (b :: bytes)
    let size := points.length + 1
    let place := next + delta
    let point := point + place / size
    if 0x10FFFF < point then .error .unreadable
    else
      let place := place % size
      inserted fuel (place + 1) point (adapted delta isFirst size) false
        (points.take place ++ point :: points.drop place) rest

/-- Splits bytes at the last hyphen, if there is one. -/
def splitBase (bytes : Bytes) : Bytes × Bytes :=
  let extended := (bytes.reverse.takeWhile (· != 45)).reverse
  (bytes.take (bytes.length - extended.length - 1), extended)

/-- Reads a text of bytes. -/
def decode (bytes : Bytes) : Except Fault (List Nat) :=
  if bytes.any (128 ≤ ·) then .error .malformed
  else
    let (base, extended) := splitBase bytes
    inserted extended.length 0 0x80 72 true (base.map UInt8.toNat) extended

/-! ## Writing -/

/-- The digit with a value below 36. -/
def digit (d : Nat) : UInt8 := (if d < 26 then 97 + d else 22 + d).toUInt8

/-- The last digit of a number is at least one and at most 26 values
away. -/
theorem threshold_bounds (place bias : Nat) :
    1 ≤ threshold place bias ∧ threshold place bias ≤ 26 := by
  simp only [threshold]
  omega

/-- The digits of a number, from a place on. -/
def digits (bias place n : Nat) : Bytes :=
  let last := threshold place bias
  if n < last then [digit n]
  else
    digit (last + (n - last) % (36 - last)) :: digits bias (place + 1) ((n - last) / (36 - last))
termination_by n
decreasing_by
  have bounds := threshold_bounds place bias
  have := Nat.div_le_self (n - threshold place bias) (36 - threshold place bias)
  show (n - threshold place bias) / (36 - threshold place bias) < n
  omega

/-- How far a text has been written. -/
structure Progress where
  written : Bytes
  /-- The number to be written next, as far as it is known. -/
  delta : Nat
  bias : Nat
  /-- How many code points have been written. -/
  count : Nat

/-- Takes in a code point of the text while all occurrences of one are
written. -/
def Progress.step (isFirst : Nat → Bool) (point : Nat) (p : Progress) (n : Nat) : Progress :=
  if n < point then { p with delta := p.delta + 1 }
  else if n = point then
    { written := p.written ++ digits p.bias 0 p.delta
      delta := 0
      bias := adapted p.delta (isFirst p.count) (p.count + 1)
      count := p.count + 1 }
  else p

/-- Writes all occurrences of code points that are given in order, after
those below `next`. -/
def Progress.write (ns : List Nat) (plain : Nat) : (next : Nat) → List Nat → Progress → Bytes
  | _, [], p => p.written
  | next, point :: points, p =>
    let p := { p with delta := p.delta + (point - next) * (p.count + 1) }
    let p := ns.foldl (Progress.step (· == plain) point) p
    Progress.write ns plain (point + 1) points { p with delta := p.delta + 1 }

/-- Writes a text. -/
def encode (ns : List Nat) : Bytes :=
  let plain := ns.filter (· < 128)
  let others := (ns.filter (128 ≤ ·)).mergeSort.eraseDups
  let start := plain.map Nat.toUInt8 ++ if plain.isEmpty then [] else [45]
  start ++ Progress.write ns plain.length 128 others ⟨[], 0, 72, plain.length⟩

/-! ## Host names -/

/-- The mark before the punycode of a label. -/
def labelMark : Bytes := [120, 110, 45, 45]

/-- Whether the text of a label can have been written with the mark: it is
prepared, but for the case of its letters of ASCII, and neither is it all
ASCII nor does it start with the mark itself. -/
def isWritable (points : List Nat) : Bool :=
  let small := points.map fun n => if n < 128 then (Char.ofNat n).toLower.toNat else n
  !points.all (· < 128) && isPrepared small && !(labelMark.map UInt8.toNat).isPrefixOf small

/-- Reads a label. A label with the mark has to be the one way in which
its text is written. -/
def label (bytes : Bytes) : Except Fault (List Nat) :=
  if 1024 < bytes.length then .error .unreadable
  else if labelMark.isPrefixOf bytes then do
    let written := bytes.drop labelMark.length
    let points ← decode written
    let isBareHyphen := (splitBase written).1.isEmpty && written.contains 45
    if !isWritable points || isBareHyphen || 63 < bytes.length then .error .unreadable
    else return points
  else if bytes.any (128 ≤ ·) then .error .malformed
  else .ok (bytes.map UInt8.toNat)

/-- The labels of a name: the bytes between points. -/
def labels : Bytes → List Bytes
  | [] => [[]]
  | b :: rest =>
    if b = 46 then [] :: labels rest
    else match labels rest with
      | [] => [[b]]
      | l :: more => (b :: l) :: more

/-- Whether the mark of a label stands anywhere in some bytes. -/
def holdsMark : Bytes → Bool
  | [] => false
  | b :: rest => labelMark.isPrefixOf (b :: rest) || holdsMark rest

/-- Reads a host name. -/
def decodeHost (bytes : Bytes) : Except Fault (List Nat) :=
  if !holdsMark bytes && bytes.all (· < 128) then .ok (bytes.map UInt8.toNat)
  else do
    let points ← (labels bytes).mapM label
    return [46].intercalate points

end Punycode

end NetSteward
