import NetSteward.Text.Utf8
/-!
# Base64url

Bytes are written six bits to a character, in the alphabet that is safe
in URLs and without padding. Reading is lenient: characters outside the
alphabet are skipped, the two characters of the other common alphabet
are taken as well, and a missing padding is supplied. It fails only if
the characters left do not make up whole bytes.
-/

namespace NetSteward

namespace Base64url

/-- The character of a number below sixty-four. -/
def digitChar (n : Nat) : Char :=
  if n < 26 then Char.ofNat (n + 65)
  else if n < 52 then Char.ofNat (n + 71)
  else if n < 62 then Char.ofNat (n - 4)
  else if n = 62 then '-' else '_'

/-- The number of a byte of the alphabet. -/
def digit? (b : UInt8) : Option Nat :=
  let n := b.toNat
  if 65 ≤ n ∧ n ≤ 90 then some (n - 65)
  else if 97 ≤ n ∧ n ≤ 122 then some (n - 71)
  else if 48 ≤ n ∧ n ≤ 57 then some (n + 4)
  else if n = 45 ∨ n = 43 then some 62
  else if n = 95 ∨ n = 47 then some 63
  else none

/-- The characters of a text of bytes, without padding. -/
def encode : Bytes → List Char
  | [] => []
  | [a] => [digitChar (a.toNat / 4), digitChar (a.toNat % 4 * 16)]
  | [a, b] =>
    [digitChar (a.toNat / 4), digitChar (a.toNat % 4 * 16 + b.toNat / 16),
      digitChar (b.toNat % 16 * 4)]
  | a :: b :: c :: rest =>
    digitChar (a.toNat / 4) :: digitChar (a.toNat % 4 * 16 + b.toNat / 16) ::
      digitChar (b.toNat % 16 * 4 + c.toNat / 64) :: digitChar (c.toNat % 64) :: encode rest

/-- Reads on: `place` is the number of characters of the current group
that were read, `left` their bits that are not yet in a byte, `pads` the
number of padding characters just before. -/
def decodeFrom : (place left pads : Nat) → Bytes → Option Bytes
  | place, _, _, [] => if place = 0 then some [] else none
  | place, left, pads, b :: rest =>
    if b = 61 then
      if 2 ≤ place then
        if 4 ≤ place + pads + 1 then some [] else decodeFrom place left (pads + 1) rest
      else decodeFrom place left pads rest
    else match digit? b with
      | none => decodeFrom place left pads rest
      | some d => match place with
        | 0 => decodeFrom 1 d 0 rest
        | 1 => (decodeFrom 2 (d % 16) 0 rest).map ((left * 4 + d / 16).toUInt8 :: ·)
        | 2 => (decodeFrom 3 (d % 4) 0 rest).map ((left * 16 + d / 4).toUInt8 :: ·)
        | _ => (decodeFrom 0 0 0 rest).map ((left * 64 + d).toUInt8 :: ·)

/-- Reads the bytes back, padding the text to a multiple of four
first. -/
def decode? (text : Bytes) : Option Bytes :=
  decodeFrom 0 0 0 (text ++ List.replicate ((4 - text.length % 4) % 4) 61)

end Base64url

end NetSteward
