import NetSteward.Json.Access
import NetSteward.Text.Percent
import NetSteward.Url.Host
/-!
# The query of a URL

The query of a URL is what stands after the first question mark and
before the first number sign. It is split into fields at each ampersand;
a field has a name and a value, and one without a value does not count.
A URL whose host is not sound is refused.
-/

namespace NetSteward

namespace Url

/-- A URL without control characters and blanks before it, and without
tabs and line ends in it. -/
def clean (cs : List Char) : List Char :=
  (Text.stripStart (fun c => c.toNat ≤ 32) cs).filter fun c =>
    !(c == '\t' || c == '\r' || c == '\n')

/-- Whether a character may stand in a scheme. -/
def isSchemeChar (c : Char) : Bool := c.isAlphanum || c == '+' || c == '-' || c == '.'

/-- A URL without its scheme, if it has one. -/
def withoutScheme (url : List Char) : List Char :=
  match Text.splitFirst? ':' url with
  | some (scheme, rest) =>
    match scheme with
    | [] => url
    | c :: _ => if c.isAlpha && scheme.all isSchemeChar then rest else url
  | none => url

/-- The host of a URL with what stands around it, empty if it names
none. -/
def authority (url : List Char) : List Char :=
  match withoutScheme url with
  | '/' :: '/' :: rest => rest.takeWhile fun c => !(c == '/' || c == '?' || c == '#')
  | _ => []

/-- The query of a clean URL. -/
def rawQuery (url : List Char) : List Char := (Text.cutAt '?' (Text.cutAt '#' url).1).2

/-- The query of a URL, if its host is sound. -/
def query (text : List Char) : Except Mismatch (List Char) :=
  let url := clean text
  if isSoundHost (authority url) then .ok (rawQuery url) else .error .malformed

/-- A field of a query or a form, if it has a value. -/
def field? (cs : List Char) : Option (List Char × List Char) :=
  match Text.splitFirst? '=' cs with
  | some (name, value) =>
    if value.isEmpty then none else some (Percent.decodeField name, Percent.decodeField value)
  | none => none

/-- The fields of a query. -/
def fields (query : List Char) : List (List Char × List Char) :=
  (Text.splitAll '&' query).filterMap field?

/-- The value of the first field with a name. -/
def fieldNamed? (name : List Char) (query : List Char) : Option (List Char) :=
  ((fields query).find? fun f => f.1 == name).map (·.2)

end Url

end NetSteward
