import NetSteward.Json.Access
import NetSteward.Json.Reader
import NetSteward.Text.Base64url
import NetSteward.Text.Utf8
/-!
# Keys

Tokens are signed with a secret key: the bytes of a text, or an object
that holds them. A text that looks like a key of another kind, one that
others may know, is never taken. What is set as the key can also name
several keys: for checking a signature, a text that is JSON stands for
the value that it writes, and a list or an object for all the keys in
it.
-/

namespace NetSteward

namespace Token

namespace Key

/-! ## Texts that are no secrets -/

/-- What a section can be said to hold in its opening line. -/
def sectionNames : List String :=
  ["CERTIFICATE", "TRUSTED CERTIFICATE", "PRIVATE KEY", "PUBLIC KEY", "ENCRYPTED PRIVATE KEY",
    "OPENSSH PRIVATE KEY", "DSA PRIVATE KEY", "RSA PRIVATE KEY", "RSA PUBLIC KEY",
    "EC PRIVATE KEY", "DH PARAMETERS", "NEW CERTIFICATE REQUEST", "CERTIFICATE REQUEST",
    "SSH2 PUBLIC KEY", "SSH2 ENCRYPTED PRIVATE KEY", "X509 CRL"]

/-- Whether the opening line of a section stands at the start of a
text. -/
def startsSection (cs : List Char) : Bool :=
  match Text.after? "----".toList cs with
  | some (mark :: rest) =>
    (mark == '-' || mark == ' ') &&
      match Text.after? "BEGIN ".toList rest with
      | some rest => sectionNames.any fun name => match Text.after? name.toList rest with
        | some (mark :: rest) => (mark == '-' || mark == ' ') && "----".toList.isPrefixOf rest
        | _ => false
      | none => false
  | _ => false

/-- Whether a text holds the opening line of a section. -/
def holdsSection : List Char → Bool
  | [] => false
  | c :: cs => startsSection (c :: cs) || holdsSection cs

/-- The words that stand before a public key. -/
def publicKeyWords : List String :=
  ["ssh-ed25519", "ssh-rsa", "ssh-dss", "ecdsa-sha2-nistp256", "ecdsa-sha2-nistp384",
    "ecdsa-sha2-nistp521"]

/-- The end of the word before a certificate of a public key. -/
def certificateEnding : String := "-cert-v01@openssh.com"

/-- An ASCII blank. -/
def isGap (c : Char) : Bool := c == ' ' || (9 ≤ c.toNat && c.toNat ≤ 13)

/-- Whether a text is the certificate of a public key: a word with the
ending, and another word on the same line. -/
def isCertificate (cs : List Char) : Bool :=
  let word := cs.takeWhile fun c => !isGap c
  let rest := cs.dropWhile fun c => !isGap c
  let after := rest.dropWhile fun c => c == ' ' || c == '\t'
  certificateEnding.toList.isSuffixOf word && after.length < rest.length &&
    match after with
    | c :: _ => !isGap c
    | [] => false

/-- Whether a text looks like a key of another kind. -/
def isOfAnotherKind (cs : List Char) : Bool :=
  holdsSection cs || publicKeyWords.any (fun w => Text.occursIn w.toList cs) || isCertificate cs

/-! ## Secrets -/

/-- The bytes of a key that an object holds: their text in base64url,
under the type that says so. -/
def ofObject (members : Keyed Json) : Except Mismatch Bytes :=
  match Keyed.get? members "kty" with
  | some (.str "oct") => match Keyed.get? members "k" with
    | some (.str k) => match Text.bytes? k.toList with
      | none => .error .unencodable
      | some text => match Base64url.decode? text with
        | some bytes => .ok bytes
        | none => .error .incomplete
    | _ => .error .noMembers
  | _ => .error .notAKey

/-- The bytes of a key. -/
def bytes : Json → Except Mismatch Bytes
  | .str s => match Text.bytes? s.toList with
    | none => .error .unencodable
    | some bytes => if isOfAnotherKind s.toList then .error .notAKey else .ok bytes
  | .obj members => ofObject members
  | _ => .error .notAKey

/-! ## The keys that a signature may be made with -/

/-- What is set as the key, read if it is a text that is JSON. Numbers in
it are texts. -/
def opened : Json → Json
  | .str s => match Json.readAll .verbatim s.toList with
    | .ok j => j
    | .error _ => .str s
  | j => j

/-- The keys that a value names: those of a set, the values of an object
that is no key itself, the items of a list, or the value alone. -/
def named : Json → Except Mismatch (List Json)
  | .obj members => match Keyed.get? members "keys", Keyed.get? members "kty" with
    | some set, _ => set.iterate
    | none, some _ => .ok [.obj members]
    | none, none =>
      if members.isEmpty then .ok [.obj members] else .ok (members.map (·.2))
  | .arr items => .ok items
  | j => .ok [j]

/-- **The keys that what is set as the key names.** -/
def candidates (setting : Json) : Except Mismatch (List Json) := named (opened setting)

end Key

end Token

end NetSteward
