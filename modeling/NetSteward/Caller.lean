import NetSteward.Json.Access
import NetSteward.Settings
/-!
# Callers

A caller that knows its secret is given a token. Comparing a secret with
one that is stored as a hash is left to a password library, and as this is
installed, every such comparison is an error.
-/

namespace NetSteward

namespace Caller

/-- What a stored secret starts with if it is a hash. -/
def hashMark : List Char := ['$', '2', 'b', '$']

/-- The stored secret of a caller, if there is one. No list and no object
names a caller. -/
def storedSecret? (s : Settings) (id : Json) : Except Mismatch (Option String) := do
  let callers ← s.callers
  match id with
  | .str id => return Keyed.get? callers id
  | .arr _ => .error .notAName
  | .obj _ => .error .notAName
  | _ => return none

/-- The greatest length of a secret that the library takes. -/
def secretLimit : Nat := 4096

/-- What comes of comparing a secret with a hash. The comparison is the
password library's, and this is what that is observed to do as it is
installed: it looks at the secret, which has to be a text and not too long,
and then fails for every hash, since the hashing behind it does not load. -/
def againstHash : Json → Mismatch
  | .str secret => if secretLimit < Text.size secret.toList then .oversizedSecret else .malformed
  | _ => .notAName

/-- **Whether a secret is the one of a caller.** An empty one never
is. -/
def authenticate (s : Settings) (id secret : Json) : Except Mismatch Bool := do
  match ← storedSecret? s id with
  | none => return false
  | some stored =>
    if stored = "" then return false
    else if hashMark.isPrefixOf stored.toList then .error (againstHash secret)
    else return secret.isStr stored

end Caller

end NetSteward
