import NetSteward.Json.Access
import NetSteward.Text.Lower
import NetSteward.Text.Percent
import NetSteward.Url.Domain
import NetSteward.Url.Host
/-!
# Targets of requests

The target of a request is a path and perhaps a query, on a host that it
may name, perhaps with a user. A target without a scheme and a host is
taken from the root of the own host, whatever slashes it starts with.
Escapes in the path are undone twice, since the path is passed on once
before it is matched; a slash that was escaped separates segments like
any other.
-/

namespace NetSteward

namespace Web

/-- The target of a request. -/
structure Target where
  scheme : List Char
  /-- The host, perhaps with a port. -/
  authority : List Char
  path : List Char
  query : List Char
  /-- Whether a user is named. -/
  hasUser : Bool

namespace Target

/-- Drops the segments that mean the place itself, and takes back a
segment for each that means the place above. The segments so far are
given with the last one first. -/
def withoutDots : List (List Char) → List (List Char) → List (List Char)
  | seen, [] => seen.reverse
  | seen, segment :: rest =>
    if segment == ['.'] then withoutDots seen rest
    else if segment == ['.', '.'] then
      withoutDots (if seen == [[]] then seen else seen.drop 1) rest
    else withoutDots (segment :: seen) rest

/-- A path without dot segments. -/
def normalize (path : List Char) : List Char :=
  ['/'].intercalate (withoutDots [] (Text.splitAll '/' path))

/-- A path from the root, without slashes in excess at its start. -/
def rooted (path : List Char) : List Char := '/' :: path.dropWhile (· == '/')

/-! ## Reading a target -/

/-- A target as it is written. -/
structure Written where
  scheme : List Char
  authority : List Char
  path : List Char
  query : List Char
  fragment : List Char

/-- Whether a character may stand in the name of a scheme. -/
def isSchemeChar (c : Char) : Bool := c.isAlphanum || c == '+' || c == '.' || c == '-'

/-- The scheme at the start of a target, and what follows it. -/
def cutScheme (cs : List Char) : List Char × List Char :=
  match cs.takeWhile isSchemeChar, cs.dropWhile isSchemeChar with
  | [], ':' :: rest => ([], rest)
  | c :: name, ':' :: rest => if c.isAlpha then (c :: name, rest) else ([], cs)
  | _, _ => ([], cs)

/-- The authority at the start of a target, and what follows it. -/
def cutAuthority : List Char → List Char × List Char
  | '/' :: '/' :: rest => (rest.takeWhile (· != '/'), rest.dropWhile (· != '/'))
  | cs => ([], cs)

/-- The parts of a target. -/
def Written.ofCharacters (cs : List Char) : Written :=
  let (body, fragment) := Text.cutAt '#' cs
  let (address, query) := Text.cutAt '?' body
  let (scheme, rest) := cutScheme address
  let (authority, path) := cutAuthority rest
  ⟨scheme, authority, path, query, fragment⟩

/-- The parts of an authority as they are written. -/
structure Authority where
  user : List Char
  host : List Char
  port : List Char

/-- The parts of an authority. The user ends at the last at sign, and an
address in brackets at the last bracket. -/
def Authority.ofCharacters (cs : List Char) : Authority :=
  let (user, cs) := (Text.splitLast? '@' cs).getD ([], cs)
  match cs, Text.splitLast? ']' cs with
  | '[' :: _, some (before, port) => ⟨user, before ++ [']'], port⟩
  | _, _ => ⟨user, cs.takeWhile (· != ':'), cs.dropWhile (· != ':')⟩

/-- Whether a text can be taken as four numbers with one character
between two of them. Any digits but the first and the last of a run can
be taken as such characters. -/
def looksLikeIpv4 (host : List Char) : Bool :=
  let runs := (Text.splitAll '.' (host.map fun c => if c.isDigit then c else '.')).map List.length
  runs.length ≤ 4 && runs.all (0 < ·) &&
    4 ≤ runs.length + (runs.map fun size => (size - 1) / 2).foldl (· + ·) 0

/-- The characters that a host holds unescaped. -/
def isPlainHostChar (c : Char) : Bool :=
  Percent.isUnreserved c || "!$&'()*+,;=\"`\x7b\x7d%|\\".toList.contains c

/-- A host as it is used: an address as it stands, any other name in
small letters and in ASCII. -/
def usedHost (host : List Char) : Except Mismatch (List Char) :=
  let isBracketed := host.head? == some '[' && 1 < host.length && host.getLast? == some ']'
  if looksLikeIpv4 host then if Url.isIpv4 host then .ok host else .error .unfitTarget
  else if isBracketed then
    if Url.isIpv6 (host.drop 1).dropLast then .ok host else .error .unfitTarget
  else if host.all Text.isAscii then
    .ok (Percent.encodeKeeping isPlainHostChar (host.map Char.toLower))
  else match Url.Domain.toAscii? (Text.lower (Text.codePoints host)) with
    | some bytes => .ok (bytes.map fun b => Char.ofNat b.toNat)
    | none => .error .unfitTarget

/-- The number of a port, if one is given. -/
def portNumber? (port : List Char) : Except Mismatch (Option Int) :=
  let digits := match port with
    | ':' :: rest => rest
    | _ => port
  if digits.isEmpty then .ok none
  else match Text.signedDigits? Text.decimalDigit? (Text.strip Text.isBlank digits) with
    | some n => .ok (some n)
    | none => .error .unfitTarget

/-- The port that a scheme uses where none is given. -/
def schemePort? (scheme : List Char) : Option Int :=
  if scheme == "http".toList then some 80
  else if scheme == "https".toList then some 443
  else none

/-- The scheme of targets that name none. -/
def ownScheme : List Char := "http".toList

/-- The host of targets that name none. -/
def ownHost : List Char := "testserver".toList

/-- The port after a host, unless it is the usual one of the scheme, which
goes without saying if the scheme is written in small letters. -/
def portText (scheme : List Char) (port : Option Int) : List Char :=
  match port with
  | none => []
  | some n => if schemePort? scheme = some n then [] else ':' :: (toString n).toList

/-- The greatest length of a target. -/
def sizeLimit : Nat := 65536

/-- Whether a character is an ASCII character for control. -/
def isControl (c : Char) : Bool := c.toNat < 32 || c.toNat = 127

/-- The target with some parts. A path alone must not look like more than
a path. -/
def ofWritten (w : Written) : Except Mismatch Target := do
  let authority := Authority.ofCharacters w.authority
  if !Text.isSound authority.user then .error .unencodable
  let host ← usedHost authority.host
  let port ← portNumber? authority.port
  let isBare := w.scheme.isEmpty && authority.user.isEmpty && host.isEmpty && port.isNone
  if isBare && (w.path.head? == some ':' || "//".toList.isPrefixOf w.path) then
    .error .unfitTarget
  if !(Text.isSound w.path && Text.isSound w.query && Text.isSound w.fragment) then
    .error .unencodable
  let path := if isBare then w.path else normalize w.path
  let undone (path : List Char) : List Char :=
    let path := Percent.decode (Percent.decode path)
    if path.isEmpty then ['/'] else path
  if w.scheme.isEmpty || host.isEmpty then
    return ⟨ownScheme, ownHost, undone (normalize (rooted path)), w.query, false⟩
  else
    let hasUser := !authority.user.isEmpty && authority.user != [':']
    return ⟨w.scheme.map Char.toLower, host ++ portText w.scheme port, undone path, w.query,
      hasUser⟩

/-- The target that a text writes. -/
def ofText (text : String) : Except Mismatch Target :=
  let cs := text.toList
  if sizeLimit < Text.size cs || cs.any isControl then .error .unfitTarget
  else ofWritten (Written.ofCharacters cs)

/-- What keeps a target from being asked, if anything does: its scheme
is one of other connections, or none that is known. -/
def schemeFault? (t : Target) : Option Mismatch :=
  if (schemePort? t.scheme).isSome then none
  else if ["ws".toList, "wss".toList].contains t.scheme then some .otherConnection
  else some (.missing (String.ofList t.scheme))

/-- Where a target is: its scheme and its host. -/
def origin (t : Target) : List Char := t.scheme ++ "://".toList ++ t.authority

/-- The segments of a path, after the slash at its start. -/
def segments (path : List Char) : List String :=
  match path with
  | '/' :: rest => (Text.splitAll '/' rest).map String.ofList
  | _ => []

/-! ## Locations -/

/-- Whether a character may stand in the name of a host. -/
def isHostChar (c : Char) : Bool := Percent.isUnreserved c || "%!$&'()*+,;=".toList.contains c

/-- Whether a character is a hexadecimal digit. -/
def isHexDigit (c : Char) : Bool := (Text.hexDigit? c).isSome

/-- Whether a text has the form of an address with colons: digits, a
colon, and digits, colons or points. -/
def hasColonForm (cs : List Char) : Bool :=
  match cs.dropWhile isHexDigit with
  | ':' :: rest => !rest.isEmpty && rest.all fun c => isHexDigit c || c == ':' || c == '.'
  | _ => false

/-- Whether a text is the name of a host, or an address in brackets. -/
def isHostName : List Char → Bool
  | [] => false
  | '[' :: rest => rest.getLast? == some ']' && hasColonForm rest.dropLast
  | cs => cs.all isHostChar

/-- Whether a text is the number of a port. -/
def isPort (cs : List Char) : Bool :=
  !cs.isEmpty && cs.all Char.isDigit && Text.digitsValue cs ≤ 65535

/-- Whether a text is a sound host, perhaps with a port. -/
def isSoundAuthority (cs : List Char) : Bool :=
  isHostName cs || match Text.splitLast? ':' cs with
    | some (host, port) => isHostName host && isPort port
    | none => false

/-- The characters that a location holds unescaped. -/
def isLocationChar (c : Char) : Bool :=
  Percent.isUnreserved c || ":/%#?=@[]!$&'()*+,;".toList.contains c

/-- A path in which nothing starts a query or a fragment. -/
def closedPath (path : List Char) : List Char :=
  path.flatMap fun c =>
    if c = '?' then "%3F".toList else if c = '#' then "%23".toList else [c]

/-- The location of a path, in place of the one of a target: on the host
that the request names, if it names a sound one. -/
def location (t : Target) (host : Option String) (path : List Char) : String :=
  let origin := match host with
    | some h =>
      if isSoundAuthority h.toList then t.scheme ++ "://".toList ++ h.toList else t.origin
    | none => t.origin
  let query := if t.query.isEmpty then [] else '?' :: t.query
  String.ofList (Percent.encodeKeeping isLocationChar (origin ++ closedPath path ++ query))

end Target

end Web

end NetSteward
