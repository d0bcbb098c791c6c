import NetSteward.Json.Value
import NetSteward.Text.Blank
/-!
# Issues

An issue says what is wrong with a value and where. Each cause has a
published code and a message; the place is the path of member names and
item numbers from the root of the value.
-/

namespace NetSteward

/-- The forms that a text can be held to. -/
inductive Pattern
  /-- Identifiers: digits, lower-case letters, hyphens, underscores. -/
  | identifier
  /-- Names: lower-case letters, digits and hyphens; a letter first and no
  hyphen last. -/
  | name
  /-- The one grant type that is served. -/
  | passwordGrant
deriving DecidableEq

namespace Pattern

/-- The form as a published expression. -/
def expression : Pattern → String
  | identifier => "^[-0-9a-z_]+$"
  | name => "^([a-z]|[a-z][-a-z0-9]*[a-z0-9])$"
  | passwordGrant => "^password$"

/-- A lower-case ASCII letter. -/
def isLetter (c : Char) : Bool := 'a' ≤ c && c ≤ 'z'

/-- A lower-case ASCII letter or a digit. -/
def isNameChar (c : Char) : Bool := isLetter c || ('0' ≤ c && c ≤ '9')

/-- Whether a text has the form. -/
def accepts (p : Pattern) (cs : List Char) : Bool :=
  match p with
  | identifier => !cs.isEmpty && cs.all fun c => isNameChar c || c == '-' || c == '_'
  | name =>
    match cs with
    | [] => false
    | c :: rest =>
      isLetter c && rest.all (fun d => isNameChar d || d == '-') &&
        match rest.getLast? with
        | none => true
        | some d => isNameChar d
  | passwordGrant => cs == "password".toList

end Pattern

/-- One step of the path to a faulty value. -/
inductive Location
  | member (name : String)
  | item (index : Nat)
deriving DecidableEq

/-- A location as a JSON value. -/
def Location.toJson : Location → Json
  | member name => .str name
  | item index => .int index

/-- The value at the end of a path, null if the path leaves the value. -/
def Location.follow : List Location → Json → Json
  | [], j => j
  | member name :: rest, .obj members => follow rest ((Keyed.get? members name).getD .null)
  | item index :: rest, .arr items => follow rest (items[index]?.getD .null)
  | _, _ => .null

namespace Issue

/-- What can be wrong with a value. -/
inductive Cause
  | missing
  | notText
  | unsoundText
  | tooShort
  | tooLong (most : Nat)
  | mismatch (pattern : Pattern)
  | notAmong (choices : List String)
  | notBoolean
  | unreadableBoolean
  | notInteger
  | unreadableInteger
  | fractionalInteger
  | oversizedInteger
  | notFinite
  | notList
  | notObject
  | notRecord (title : String)
  | notReadable
  | noTag
  | unknownTag (tag : String) (tags : List String)
  | noTarget
  | brokenText
  | unknownMember
deriving DecidableEq

namespace Cause

/-- The published code of a cause. -/
def code : Cause → String
  | missing => "missing"
  | notText => "string_type"
  | unsoundText => "string_unicode"
  | tooShort => "string_too_short"
  | tooLong _ => "string_too_long"
  | mismatch _ => "string_pattern_mismatch"
  | notAmong _ => "literal_error"
  | notBoolean => "bool_type"
  | unreadableBoolean => "bool_parsing"
  | notInteger => "int_type"
  | unreadableInteger => "int_parsing"
  | fractionalInteger => "int_from_float"
  | oversizedInteger => "int_parsing_size"
  | notFinite => "finite_number"
  | notList => "list_type"
  | notObject => "dict_type"
  | notRecord _ => "model_type"
  | notReadable => "model_attributes_type"
  | noTag => "union_tag_not_found"
  | unknownTag _ _ => "union_tag_invalid"
  | noTarget => "value_error"
  | brokenText => "json_invalid"
  | unknownMember => "extra_forbidden"

/-- A word in single quotes. -/
def quoted (s : String) : String := "'" ++ s ++ "'"

/-- Choices in quotes, with commas and a last `or`. -/
def alternatives : List String → String
  | [] => ""
  | [a] => quoted a
  | [a, b] => quoted a ++ " or " ++ quoted b
  | a :: rest => quoted a ++ ", " ++ alternatives rest

/-- The message of a cause. -/
def message : Cause → String
  | missing => "Field required"
  | notText => "Input should be a valid string"
  | unsoundText =>
    "Input should be a valid string, unable to parse raw data as a unicode string"
  | tooShort => "String should have at least 1 character"
  | tooLong most => "String should have at most " ++ toString most ++ " characters"
  | mismatch pattern => "String should match pattern " ++ quoted pattern.expression
  | notAmong choices => "Input should be " ++ alternatives choices
  | notBoolean => "Input should be a valid boolean"
  | unreadableBoolean => "Input should be a valid boolean, unable to interpret input"
  | notInteger => "Input should be a valid integer"
  | unreadableInteger => "Input should be a valid integer, unable to parse string as an integer"
  | fractionalInteger => "Input should be a valid integer, got a number with a fractional part"
  | oversizedInteger =>
    "Unable to parse input string as an integer, exceeded maximum size"
  | notFinite => "Input should be a finite number"
  | notList => "Input should be a valid list"
  | notObject => "Input should be a valid dictionary"
  | notRecord title => "Input should be a valid dictionary or instance of " ++ title
  | notReadable => "Input should be a valid dictionary or object to extract fields from"
  | noTag => "Unable to extract tag using discriminator 'kind'"
  | unknownTag tag tags =>
    "Input tag " ++ quoted tag ++ " found using 'kind' does not match any of the expected tags: " ++
      String.intercalate ", " (tags.map quoted)
  | noTarget => "Value error, One of vpc_id, vpc_crn or vpc_href must be given."
  | brokenText => "JSON decode error"
  | unknownMember => "Extra inputs are not permitted"

end Cause

end Issue

/-- Something wrong with a value, and where. -/
structure Issue where
  cause : Issue.Cause
  path : List Location
deriving DecidableEq

namespace Issue

/-- The same issue, seen from one level further out. -/
def within (loc : Location) (i : Issue) : Issue := { i with path := loc :: i.path }

/-- The part of a value that an issue is about. What is missing is an
issue of the object that lacks it. -/
def offending (whole : Json) (i : Issue) : Json :=
  Location.follow (if i.cause = .missing then i.path.dropLast else i.path) whole

/-- An issue as it is reported. -/
def toJson (i : Issue) : Json :=
  .obj [("type", .str i.cause.code), ("loc", .arr (i.path.map Location.toJson)),
    ("msg", .str i.cause.message)]

end Issue

end NetSteward
