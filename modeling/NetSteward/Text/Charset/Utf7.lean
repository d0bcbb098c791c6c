import NetSteward.Text.Utf16
import NetSteward.Text.Utf8
/-!
# UTF-7

UTF-7 writes a text in ASCII. Most characters stand for themselves; a
plus sign starts a run of base64 that writes units of UTF-16, six bits
with each character. The run ends before the first character that is
none of base64, and a hyphen there belongs to the run. The bits that are
left at its end must be too few for another character, and zero. A plus
sign itself is written with a hyphen after it.
-/

namespace NetSteward

namespace Utf7

/-- The number of a byte of base64. -/
def digit? (b : UInt8) : Option Nat :=
  let n := b.toNat
  if 65 ≤ n ∧ n ≤ 90 then some (n - 65)
  else if 97 ≤ n ∧ n ≤ 122 then some (n - 71)
  else if 48 ≤ n ∧ n ≤ 57 then some (n + 4)
  else if n = 43 then some 62
  else if n = 47 then some 63
  else none

/-- The units that the bits of a run write, and what is left: how many
bits, and their value. The bits before the run are given likewise. -/
def unitsOf : (bits value : Nat) → List Nat → List Nat × Nat × Nat
  | bits, value, [] => ([], bits, value)
  | bits, value, d :: rest =>
    let value := 64 * value + d
    if 10 ≤ bits then
      let weight := Nat.pow 2 (bits - 10)
      let (units, left) := unitsOf (bits - 10) (value % weight) rest
      (value / weight :: units, left)
    else unitsOf (bits + 6) value rest

/-- The code points of a run, given what follows it. A first half at its
end stays only if a character follows that stands for itself. -/
def runCodePoints? (run : List Nat) (after : Bytes) : Option (List Nat) :=
  let (units, bits, value) := unitsOf 0 0 run
  if 6 ≤ bits ∨ value ≠ 0 then none
  else
    let endsOpen := (units.getLast?.map Utf16.isHigh).getD false
    match after with
    | [] => if endsOpen then none else some (Utf16.ofUnits units)
    | b :: _ => some (Utf16.ofUnits (if endsOpen && b == 43 then units.dropLast else units))

/-- The code points of a text of bytes, if it is well formed. -/
def decode? : Bytes → Option (List Nat)
  | [] => some []
  | b :: rest =>
    if b = 43 then
      let run := rest.takeWhile fun b => (digit? b).isSome
      let after := rest.dropWhile fun b => (digit? b).isSome
      if run.isEmpty then match rest with
        | [] => some []
        | c :: more => if c = 45 then (decode? more).map (43 :: ·) else none
      else do
        let points ← runCodePoints? (run.filterMap digit?) after
        let more ← decode? (if after.head? = some 45 then after.drop 1 else after)
        return points ++ more
    else if b < 128 then (decode? rest).map (b.toNat :: ·)
    else none
termination_by bytes => bytes.length
decreasing_by
  · simp only [List.length_cons]
    omega
  · have shorter := (List.dropWhile_suffix (l := rest) fun b => (digit? b).isSome).length_le
    rw [List.length_cons]
    split
    · rw [List.length_drop]
      omega
    · omega
  · simp

end Utf7

end NetSteward
