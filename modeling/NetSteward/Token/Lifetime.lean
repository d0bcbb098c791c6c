import NetSteward.Schema.Unreadable
import NetSteward.Settings
import NetSteward.Time.Instant
import NetSteward.Token.Form
/-!
# Issuing and accepting tokens

A token names its subject and the second at which it expires. It is
accepted up to that second, if nothing else that it claims speaks
against it. Three claims are times; they can be written in several ways,
and one that writes no number makes the token invalid, while one of an
unfit type is an error.
-/

namespace NetSteward

namespace Token

open Time (Instant Duration)

/-! ## Issuing -/

/-- The lifetime of a token when none is asked for. -/
def defaultLifetime (s : Settings) : Except Mismatch Duration :=
  Time.ofNumber Time.minute s.tokenMinutes

/-- The lifetime of a token; none at all counts as not asked for. -/
def lifetime (s : Settings) (asked : Option Duration) : Except Mismatch Duration :=
  match asked with
  | some d => if d = 0 then defaultLifetime s else .ok d
  | none => defaultLifetime s

/-- The payload of a token. -/
def payload (subject : Json) (expiry : Int) : Json := .obj [("sub", subject), ("exp", .int expiry)]

/-- **Issues a token** for a subject. The clock has to be readable, and the
expiry, cut to whole seconds, must have a date. An algorithm that is no
name at all is told from one that does not sign with the key. -/
def issue (s : Settings) (now : Instant) (subject : Json) (asked : Option Duration) :
    Except Mismatch String := do
  let now ← now.read
  let expiry := now.add (← lifetime s asked)
  if expiry.hasDate then
    match Algorithm.ofSetting s.tokenAlgorithm, Key.bytes s.tokenKey with
    | .ok a, .ok key => return String.ofList (write a key (payload subject expiry.seconds))
    | .error .notAName, _ => .error .notAName
    | _, _ => .error .notSigned
  else .error .outOfRange

/-- The number of seconds for which a token is said to hold. -/
def secondsGranted (s : Settings) : Read Int :=
  match s.tokenMinutes with
  | .float x => checked (Schema.integer (.float (x.timesNat 60)))
  | .int n => .ok (n * 60)
  | .bool b => .ok (if b then 60 else 0)
  | _ => .error (.shape .notNumeric)

/-! ## Accepting -/

/-- Why the claims of a token are not accepted. -/
inductive Objection
  /-- The token is invalid. -/
  | invalid
  /-- A claim has an unfit type, or the clock cannot be read. -/
  | unfit (mismatch : Mismatch)
deriving DecidableEq

/-- The number of seconds that a claim writes. -/
def secondsOf : Json → Except Objection Int
  | .int n => .ok n
  | .bool b => .ok (if b then 1 else 0)
  | .str s =>
    if Json.digitLimit < s.toList.countP (fun c => (Text.decimalDigit? c).isSome) then
      .error .invalid
    else match Text.signedDigits? Text.decimalDigit? (Text.strip Text.isSpace s.toList) with
      | some n => .ok n
      | none => .error .invalid
  | .float x =>
    match x with
    | .nan => .error .invalid
    | .infinite _ => .error (.unfit .outOfRange)
    | x => match x.truncate? with
      | some n => .ok n
      | none => .error .invalid
  | _ => .error (.unfit .notNumeric)

/-- The second that the clock shows. -/
def currentSecond (now : Instant) : Except Objection Int :=
  match now.read with
  | .ok now => .ok now.seconds
  | .error m => .error (.unfit m)

/-- Checks a claim that is a time, if it is made. -/
def checkTime (claims : Keyed Json) (name : String) (accepts : Int → Except Objection Bool) :
    Except Objection Unit :=
  match Keyed.get? claims name with
  | none => .ok ()
  | some j => do
    if ← accepts (← secondsOf j) then .ok () else .error .invalid

/-- Checks that a claim is not made. -/
def checkAbsent (claims : Keyed Json) (name : String) : Except Objection Unit :=
  match Keyed.get? claims name with
  | none => .ok ()
  | some _ => .error .invalid

/-- Checks that a claim is a text, if it is made. -/
def checkText (claims : Keyed Json) (name : String) : Except Objection Unit :=
  match Keyed.get? claims name with
  | none => .ok ()
  | some (.str _) => .ok ()
  | some _ => .error .invalid

/-- Checks what a token claims at an instant: when it was issued, from
when on and until when it holds, for whom it is and whom it names. The
clock is read only if a claim has to be compared with it. -/
def checkClaims (claims : Keyed Json) (now : Instant) : Except Objection Unit := do
  checkTime claims "iat" fun _ => .ok true
  checkTime claims "nbf" fun t => do return t ≤ (← currentSecond now)
  checkTime claims "exp" fun t => do return (← currentSecond now) ≤ t
  checkAbsent claims "aud"
  checkText claims "sub"
  checkText claims "jti"
  checkAbsent claims "at_hash"

/-- The subject that claims name. -/
def subject? (claims : Keyed Json) : Option String :=
  match Keyed.get? claims "sub" with
  | some (.str s) => some s
  | _ => none

/-- **The subject of a token** that is accepted at an instant. -/
def subjectOf (s : Settings) (now : Instant) (token : String) :
    Except Mismatch (Option String) :=
  match claims? s.tokenAlgorithm s.tokenKey token with
  | .error m => .error m
  | .ok none => .ok none
  | .ok (some claims) =>
    match checkClaims claims now with
    | .ok () => .ok (subject? claims)
    | .error .invalid => .ok none
    | .error (.unfit m) => .error m

/-- The subject of a token that is given as a value, which has to be a
text. -/
def subjectOfValue (s : Settings) (now : Instant) : Json → Except Mismatch (Option String)
  | .str token => subjectOf s now token
  | _ => .error .noMembers

end Token

end NetSteward
