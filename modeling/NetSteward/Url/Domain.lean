import NetSteward.Text.Blank
import NetSteward.Text.Charset.Punycode
import NetSteward.Url.Domain.Context
import NetSteward.Url.Domain.Direction
import NetSteward.Url.Domain.Permitted
/-!
# International host names

A host name is made of labels with points between them. In ASCII a label
with other characters is written as a mark and its punycode. Only a label
that is sound has such a form: composed, without hyphens at its ends or
in its third and fourth place, without a mark at its start, of characters
that are permitted or fit their place, and with its directions in order.
A label of ASCII is held to the same rules, and one with the mark to them
for what its punycode says.
-/

namespace NetSteward

namespace Url

namespace Domain

/-- The greatest length of a label in ASCII. -/
def labelLimit : Nat := 63

/-- The greatest length of a name in ASCII. -/
def nameLimit : Nat := 253

/-- A hyphen. -/
def hyphen : Nat := 45

/-- Whether the hyphens of a label are where they may be. -/
def areHyphensSound (ns : List Nat) : Bool :=
  (ns.drop 2).take 2 != [hyphen, hyphen] && ns.head? != some hyphen && ns.getLast? != some hyphen

/-- Whether each code point of a label is permitted or fits its place,
given those before in reverse. -/
def areFit (before : List Nat) : List Nat → Bool
  | [] => true
  | n :: rest => (isPermitted n || fitsPlace before n rest) && areFit (n :: before) rest

/-- Whether a label is sound. -/
def isSound (ns : List Nat) : Bool :=
  !ns.isEmpty && areHyphensSound ns && !(ns.take 1).any (isWithin markRanges) &&
    areFit [] ns && Text.isComposed ns && isInOrder ns

/-- Whether a label of ASCII is sound, in whatever case. -/
def isSoundPlain (ns : List Nat) : Bool :=
  let small := ns.map fun n => (Char.ofNat n).toLower.toNat
  match Text.after? Punycode.labelMark (small.map Nat.toUInt8) with
  | none => isSound small
  | some written =>
    !written.isEmpty && written.getLast? != some 45 && match Punycode.decode written with
      | .ok points => isSound points
      | .error _ => false

/-- The form of a label in ASCII. -/
def label? (ns : List Nat) : Option Bytes :=
  let plain := ns.all (· < 128)
  let bytes := if plain then ns.map Nat.toUInt8 else Punycode.labelMark ++ Punycode.encode ns
  if (if plain then isSoundPlain ns else isSound ns) && bytes.length ≤ labelLimit then some bytes
  else none

/-- Whether a code point stands between labels. -/
def isPoint (n : Nat) : Bool := n == 0x2E || n == 0x3002 || n == 0xFF0E || n == 0xFF61

/-- The labels of a name. -/
def labels : List Nat → List (List Nat)
  | [] => [[]]
  | n :: rest =>
    if isPoint n then [] :: labels rest
    else match labels rest with
      | [] => [[n]]
      | label :: more => (n :: label) :: more

/-- **The form of a host name in ASCII**, if it has one. A point may stand
at its end. -/
def toAscii? (ns : List Nat) : Option Bytes := do
  let all := labels ns
  let isEnded := 1 < all.length && all.getLast? == some []
  let written ← (if isEnded then all.dropLast else all).mapM label?
  let name := [46].intercalate written
  if nameLimit < name.length then none
  else return name ++ if isEnded then [46] else []

end Domain

end Url

end NetSteward
