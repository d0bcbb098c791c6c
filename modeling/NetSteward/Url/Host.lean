import NetSteward.Text.Blank
import NetSteward.Text.Digit
/-!
# Hosts in brackets

An address with colons stands in brackets in a URL. What may stand there
is an IPv6 address, perhaps with a zone, or an address of a later
version. The same module knows the characters that a host must not hold
because they stand for a delimiter.
-/

namespace NetSteward

namespace Url

/-- Whether a text is a decimal number from 0 to 255 without leading
zeros. -/
def isOctet (cs : List Char) : Bool :=
  cs.all Char.isDigit && cs.length ≤ 3 && (cs == ['0'] || cs.head? != some '0') &&
    match Text.groupedDigits? Text.asciiDigit? cs with
    | some n => n ≤ 255
    | none => false

/-- Whether a text is an IPv4 address. -/
def isIpv4 (cs : List Char) : Bool :=
  let octets := Text.splitAll '.' cs
  octets.length == 4 && octets.all isOctet

/-- Whether a text is a group of an IPv6 address: up to four hexadecimal
digits. -/
def isGroup (cs : List Char) : Bool :=
  !cs.isEmpty && cs.length ≤ 4 && cs.all fun c => (Text.hexDigit? c).isSome

/-- The groups before and after the first empty one that has groups on
both sides. -/
def splitGap? : List (List Char) → Option (List (List Char) × List (List Char))
  | first :: [] :: last :: rest => some ([first], last :: rest)
  | first :: second :: rest =>
    (splitGap? (second :: rest)).map fun (before, after) => (first :: before, after)
  | _ => none

/-- Groups at an end of an address; an empty one alone stands for
none. -/
def groupsAtEnd (groups : List (List Char)) : List (List Char) :=
  if groups == [[]] then [] else groups

/-- Whether groups make up an IPv6 address: eight of them, or fewer
around one gap. -/
def areIpv6Groups (groups : List (List Char)) : Bool :=
  match splitGap? groups with
  | some (before, after) =>
    let before := groupsAtEnd before
    let after := groupsAtEnd after
    before.length + after.length ≤ 7 && before.all isGroup && after.all isGroup
  | none => groups.length == 8 && groups.all isGroup

/-- The groups of an IPv6 address, where an IPv4 address at the end
stands for two. -/
def ipv6Groups? (cs : List Char) : Option (List (List Char)) :=
  let groups := Text.splitAll ':' cs
  match groups.getLast? with
  | none => none
  | some last =>
    if last.contains '.' then
      if isIpv4 last then some (groups.dropLast ++ [['0'], ['0']]) else none
    else some groups

/-- Whether a text is an IPv6 address without a zone. -/
def isIpv6Bare (cs : List Char) : Bool :=
  match ipv6Groups? cs with
  | some groups => areIpv6Groups groups
  | none => false

/-- Whether a text is an IPv6 address, perhaps with a zone. -/
def isIpv6 (cs : List Char) : Bool :=
  !cs.contains '/' && match Text.splitFirst? '%' cs with
    | none => isIpv6Bare cs
    | some (address, zone) => !zone.isEmpty && !zone.contains '%' && isIpv6Bare address

/-- Whether a text is an address of a later version: `v`, the version,
a point and the address. -/
def isLaterAddress (cs : List Char) : Bool :=
  match Text.splitFirst? '.' cs with
  | some (version, address) =>
    version.head? == some 'v' && !(version.drop 1).isEmpty &&
      (version.drop 1).all (fun c => (Text.hexDigit? c).isSome) &&
      !address.isEmpty && !address.contains '\n'
  | none => false

/-- Whether a text may stand in brackets. -/
def isBracketedHost (cs : List Char) : Bool :=
  if cs.head? == some 'v' then isLaterAddress cs else isIpv6 cs

/-- The characters whose compatibility form holds a delimiter. -/
def delimiterForms : List Nat :=
  [0x2047, 0x2048, 0x2049, 0x2100, 0x2101, 0x2105, 0x2106, 0x2A74, 0xFE13, 0xFE16, 0xFE55,
    0xFE56, 0xFE5F, 0xFE6B, 0xFF03, 0xFF0F, 0xFF1A, 0xFF1F, 0xFF20]

/-- The host of an authority with its port: what stands after the user,
which ends at the last at sign. -/
def afterUser (authority : List Char) : List Char :=
  match Text.splitLast? '@' authority with
  | some (_, rest) => rest
  | none => authority

/-- The host that is held to the form of an address, if one can be told:
between brackets, with nothing before them and at most a port after
them, or before the port where the user alone has brackets. -/
def addressOf? (hostAndPort : List Char) : Option (List Char) :=
  match Text.splitFirst? '[' hostAndPort with
  | some (before, bracketed) =>
    let (address, after) := Text.cutAt ']' bracketed
    if before.isEmpty && (after.isEmpty || after.head? == some ':') then some address else none
  | none => some (Text.cutAt ':' hostAndPort).1

/-- Whether the host of an authority with brackets has the form of an
address. -/
def hasBracketedHost (authority : List Char) : Bool :=
  match addressOf? (afterUser authority) with
  | some address => isBracketedHost address
  | none => false

/-- Whether an authority is sound: opening brackets come with closing
ones and hold an address, and no character stands for a delimiter. -/
def isSoundHost (cs : List Char) : Bool :=
  (cs.contains '[' == cs.contains ']') &&
    (!cs.contains '[' || hasBracketedHost cs) &&
    cs.all fun c => !delimiterForms.contains c.toNat

end Url

end NetSteward
