import NetSteward.Text.Utf8
/-!
# The SHA-2 hashes and their keyed forms

A hash reads a message in blocks of sixteen words, after padding it with
a one bit, zeros and its length. Each block is expanded to one word for
each round, and a round turns eight working words once. The hashes of the
family differ in the length of their words, in how far these are turned,
in the number of rounds and in what they start from and end with. The
keyed form of a hash hashes the message twice, each time behind the key.
-/

namespace NetSteward

/-- A hash of the family, with words of `w` bits. What is mixed from a word
are three copies of it, turned right by some bits or moved right by
some. -/
structure Sha2 (w : Nat) where
  /-- How many words a block is expanded to. -/
  rounds : Nat
  /-- How far the three copies of the first working word are turned. -/
  first : Nat × Nat × Nat
  /-- How far those of the fifth are. -/
  fifth : Nat × Nat × Nat
  /-- How far the copies of the fifteenth word before a new one are turned,
  turned and moved. -/
  fifteenth : Nat × Nat × Nat
  /-- How far those of the second word before it are. -/
  second : Nat × Nat × Nat
  /-- How many primes are left out before those of the words at the start. -/
  skipped : Nat
  /-- How many of the working words make up the hash. -/
  size : Nat

namespace Sha2

/-- The first eighty primes, from which all constants are made. -/
def primes : List Nat :=
  [2, 3, 5, 7, 11, 13, 17, 19, 23, 29, 31, 37, 41, 43, 47, 53, 59, 61, 67, 71, 73, 79, 83, 89,
    97, 101, 103, 107, 109, 113, 127, 131, 137, 139, 149, 151, 157, 163, 167, 173, 179, 181,
    191, 193, 197, 199, 211, 223, 227, 229, 233, 239, 241, 251, 257, 263, 269, 271, 277, 281,
    283, 293, 307, 311, 313, 317, 331, 337, 347, 349, 353, 359, 367, 373, 379, 383, 389, 397,
    401, 409]

/-- The greatest number of some binary digits, above those already found,
with a power that is at most `n`. -/
def rootFrom (power n : Nat) : Nat → Nat → Nat
  | 0, found => found
  | digits + 1, found =>
    let more := found + Nat.pow 2 digits
    rootFrom power n digits (if Nat.pow more power ≤ n then more else found)

variable {w : Nat}

/-- The first bits behind the point of a root of a number below `2 ^ 9`. -/
def rootBits (power n : Nat) : BitVec w :=
  BitVec.ofNat w (rootFrom power (n * Nat.pow 2 (w * power)) (w + 9) 0)

/-- The constants of the rounds: bits of the cube roots of the primes. -/
def roundConstants (h : Sha2 w) : List (BitVec w) := (primes.take h.rounds).map (rootBits 3)

/-- The eight working words. -/
structure Working (w : Nat) where
  a : BitVec w
  b : BitVec w
  c : BitVec w
  d : BitVec w
  e : BitVec w
  f : BitVec w
  g : BitVec w
  h : BitVec w

/-- The words at the start: bits of the square roots of eight primes. -/
def start (h : Sha2 w) : Working w :=
  let root (n : Nat) : BitVec w := rootBits 2 (primes.getD (h.skipped + n) 0)
  ⟨root 0, root 1, root 2, root 3, root 4, root 5, root 6, root 7⟩

/-- Three copies of a word, all turned, added bit by bit. -/
def turned (x : BitVec w) (amounts : Nat × Nat × Nat) : BitVec w :=
  x.rotateRight amounts.1 ^^^ x.rotateRight amounts.2.1 ^^^ x.rotateRight amounts.2.2

/-- Three copies of a word, two turned and one moved, added bit by bit. -/
def moved (x : BitVec w) (amounts : Nat × Nat × Nat) : BitVec w :=
  x.rotateRight amounts.1 ^^^ x.rotateRight amounts.2.1 ^^^ (x >>> amounts.2.2)

/-- One round, with a word of the block and a constant. -/
def round (h : Sha2 w) (s : Working w) (word constant : BitVec w) : Working w :=
  let choice := (s.e &&& s.f) ^^^ ((~~~ s.e) &&& s.g)
  let t1 := s.h + turned s.e h.fifth + choice + constant + word
  let majority := (s.a &&& s.b) ^^^ (s.a &&& s.c) ^^^ (s.b &&& s.c)
  ⟨t1 + (turned s.a h.first + majority), s.a, s.b, s.c, s.d + t1, s.e, s.f, s.g⟩

/-- The word that follows some words, which are given with the last one
first. -/
def nextWord (h : Sha2 w) (words : List (BitVec w)) : BitVec w :=
  moved (words.getD 1 0) h.second + words.getD 6 0 + moved (words.getD 14 0) h.fifteenth +
    words.getD 15 0

/-- Adds a number of words, with the last one first. -/
def extend (h : Sha2 w) : Nat → List (BitVec w) → List (BitVec w)
  | 0, words => words
  | n + 1, words => extend h n (nextWord h words :: words)

/-- The words of a block, one for each round. -/
def schedule (h : Sha2 w) (block : List (BitVec w)) : List (BitVec w) :=
  (extend h (h.rounds - 16) block.reverse).reverse

/-- Takes a block into the working words. -/
def compress (h : Sha2 w) (s : Working w) (block : List (BitVec w)) : Working w :=
  let t := ((schedule h block).zip (roundConstants h)).foldl (fun s e => round h s e.1 e.2) s
  ⟨s.a + t.a, s.b + t.b, s.c + t.c, s.d + t.d, s.e + t.e, s.f + t.f, s.g + t.g, s.h + t.h⟩

/-- The number that some bytes write, the high one first. -/
def number (bytes : Bytes) : Nat := bytes.foldl (fun n b => n * 256 + b.toNat) 0

/-- The bytes of a number, the high one first. -/
def bigEndian : Nat → Nat → Bytes
  | 0, _ => []
  | width + 1, n => bigEndian width (n / 256) ++ [(n % 256).toUInt8]

/-- The first words of a text of bytes. -/
def words : Nat → Bytes → List (BitVec w)
  | 0, _ => []
  | n + 1, bytes => BitVec.ofNat w (number (bytes.take (w / 8))) :: words n (bytes.drop (w / 8))

/-- The length of a block in bytes. -/
def blockSize (_ : Sha2 w) : Nat := 2 * w

/-- Takes a number of blocks into the working words. -/
def compressAll (h : Sha2 w) : Nat → Working w → Bytes → Working w
  | 0, s, _ => s
  | n + 1, s, bytes => compressAll h n (compress h s (words 16 bytes)) (bytes.drop h.blockSize)

/-- A message with a one bit, zeros and its length in bits, which takes an
eighth of a block and makes up whole blocks. -/
def pad (h : Sha2 w) (message : Bytes) : Bytes :=
  let size := h.blockSize
  let zeros := (2 * size - 1 - size / 8 - message.length % size) % size
  message ++ 0x80 :: List.replicate zeros 0 ++ bigEndian (size / 8) (8 * message.length)

/-- **The hash of a message.** -/
def digest (h : Sha2 w) (message : Bytes) : Bytes :=
  let padded := pad h message
  let s := compressAll h (padded.length / h.blockSize) h.start padded
  ([s.a, s.b, s.c, s.d, s.e, s.f, s.g, s.h].take h.size).flatMap fun x =>
    bigEndian (w / 8) x.toNat

/-! ## The hashes that are used -/

/-- The hash with words of thirty-two bits. -/
def sha256 : Sha2 32 where
  rounds := 64
  first := (2, 13, 22)
  fifth := (6, 11, 25)
  fifteenth := (7, 18, 3)
  second := (17, 19, 10)
  skipped := 0
  size := 8

/-- The hash with words of sixty-four bits. -/
def sha512 : Sha2 64 where
  rounds := 80
  first := (28, 34, 39)
  fifth := (14, 18, 41)
  fifteenth := (1, 8, 7)
  second := (19, 61, 6)
  skipped := 0
  size := 8

/-- The same from other words at the start, cut to six words. -/
def sha384 : Sha2 64 := { sha512 with skipped := 8, size := 6 }

end Sha2

namespace Hmac

variable {w : Nat}

/-- A key as one block: hashed if it is longer, and filled up with
zeros. -/
def blockKey (h : Sha2 w) (key : Bytes) : Bytes :=
  let key := if h.blockSize < key.length then h.digest key else key
  key ++ List.replicate (h.blockSize - key.length) 0

/-- **The keyed form of a hash.** -/
def keyed (h : Sha2 w) (key message : Bytes) : Bytes :=
  let inner := (blockKey h key).map (· ^^^ 0x36)
  let outer := (blockKey h key).map (· ^^^ 0x5c)
  h.digest (outer ++ h.digest (inner ++ message))

/-- The keyed hash with SHA-256. -/
def sha256 (key message : Bytes) : Bytes := keyed Sha2.sha256 key message

/-- The keyed hash with SHA-384. -/
def sha384 (key message : Bytes) : Bytes := keyed Sha2.sha384 key message

/-- The keyed hash with SHA-512. -/
def sha512 (key message : Bytes) : Bytes := keyed Sha2.sha512 key message

end Hmac

end NetSteward
