import NetSteward.Crypto.Sha2
import NetSteward.Json.Writer
import NetSteward.Token.Key
/-!
# The form of a token

A token has three segments, with points between them: a header, a
payload and a signature, each in base64url. The signature is a keyed
hash of the first two segments as they are written, by the algorithm that
is set. Writing a token signs it; reading one checks its form, the
algorithm that its header names and its signature.
-/

namespace NetSteward

namespace Token

/-! ## Algorithms -/

/-- The algorithms that sign with a secret: keyed hashes. -/
inductive Algorithm
  | hs256
  | hs384
  | hs512
deriving DecidableEq

namespace Algorithm

/-- All algorithms that sign with a secret. -/
def all : List Algorithm := [hs256, hs384, hs512]

/-- The name of an algorithm. -/
def name : Algorithm → String
  | hs256 => "HS256"
  | hs384 => "HS384"
  | hs512 => "HS512"

/-- The keyed hash that an algorithm signs with. -/
def hash : Algorithm → Bytes → Bytes → Bytes
  | hs256 => Hmac.sha256
  | hs384 => Hmac.sha384
  | hs512 => Hmac.sha512

/-- The algorithm that is set. Those that sign with one key of a pair, or
do not sign at all, are left out: no secret serves as a key of theirs. -/
def ofSetting : Json → Except Mismatch Algorithm
  | .str s => match all.find? fun a => a.name = s with
    | some a => .ok a
    | none => .error .notAKey
  | .arr _ | .obj _ => .error .notAName
  | _ => .error .notAKey

@[simp] theorem ofSetting_name (a : Algorithm) : ofSetting (.str a.name) = .ok a := by
  cases a with
  | hs256 | hs384 | hs512 => rfl

end Algorithm

/-! ## Writing -/

/-- The header of the tokens that are issued. -/
def header (a : Algorithm) : Json := .obj [("alg", .str a.name), ("typ", .str "JWT")]

/-- The segment of a JSON value. -/
def segment (j : Json) : List Char := Base64url.encode (Utf8.encode j.write)

/-- The signature of some text under a key. -/
def signature (a : Algorithm) (key : Bytes) (signed : List Char) : Bytes :=
  a.hash key (Utf8.encode signed)

/-- **Writes a token** with a payload, signed with a key. -/
def write (a : Algorithm) (key : Bytes) (payload : Json) : List Char :=
  let signed := segment (header a) ++ '.' :: segment payload
  signed ++ '.' :: Base64url.encode (signature a key signed)

/-! ## Reading -/

/-- The segments of a token. -/
structure Segments where
  header : List Char
  payload : List Char
  signature : List Char
deriving DecidableEq

/-- The text that is signed. -/
def Segments.signed (s : Segments) : List Char := s.header ++ '.' :: s.payload

/-- Splits a token at the last point, and the text before it at the first
point. -/
def segments? (token : List Char) : Option Segments := do
  let (signed, signature) ← Text.splitLast? '.' token
  let (header, payload) ← Text.splitFirst? '.' signed
  return ⟨header, payload, signature⟩

/-- The object that the bytes of a segment write. -/
def object? (bytes : Bytes) : Except Mismatch (Option (Keyed Json)) :=
  match Utf8.decode? bytes with
  | none => .ok none
  | some cs => match Json.read (Text.ofCharacters cs) with
    | .ok (.obj members) => .ok (some members)
    | .error .tooDeep => .error .tooDeep
    | _ => .ok none

/-- The bytes of a segment. -/
def segmentBytes? (segment : List Char) : Option Bytes := Base64url.decode? (Utf8.encode segment)

/-- Whether a header names the algorithm that is set. -/
def namesAlgorithm (algorithm : Json) (header : Keyed Json) : Bool :=
  match Keyed.get? header "alg" with
  | some alg => alg.isGiven && alg.same algorithm
  | none => false

/-- A token whose form is right: its header, the bytes of its payload and
of its signature, and the text that is signed. -/
structure Parsed where
  header : Keyed Json
  payload : Bytes
  signature : Bytes
  signed : List Char

/-- The header of a token in segments. -/
def Segments.header? (s : Segments) : Except Mismatch (Option (Keyed Json)) :=
  match segmentBytes? s.header with
  | none => .ok none
  | some bytes => object? bytes

/-- Reads the form of a token. -/
def parse? (token : String) : Except Mismatch (Option Parsed) :=
  match Text.characters? token.toList with
  | none => .error .unencodable
  | some cs => match segments? cs with
    | none => .ok none
    | some s => do
      let header ← s.header?
      return do
        let header ← header
        let payload ← segmentBytes? s.payload
        let given ← segmentBytes? s.signature
        return ⟨header, payload, given, s.signed⟩

/-- Whether the signature of a token is made with one of some keys, by the
algorithm that is set. They are tried in order, up to the first that
fits. -/
def isSignedBy (algorithm : Json) (t : Parsed) : List Json → Except Mismatch Bool
  | [] => .ok false
  | key :: rest => do
    let a ← Algorithm.ofSetting algorithm
    let key ← Key.bytes key
    if t.signature = signature a key t.signed then return true
    else isSignedBy algorithm t rest

/-- **The claims of a token that is signed with a key** that is set: the
members of its payload, if its form, its algorithm and its signature are
right. -/
def claims? (algorithm setting : Json) (token : String) :
    Except Mismatch (Option (Keyed Json)) :=
  match parse? token with
  | .error m => .error m
  | .ok none => .ok none
  | .ok (some t) =>
    if namesAlgorithm algorithm t.header then do
      let keys ← Key.candidates setting
      if ← isSignedBy algorithm t keys then object? t.payload else return none
    else .ok none

end Token

end NetSteward
