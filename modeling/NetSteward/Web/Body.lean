import NetSteward.Json.Bytes
import NetSteward.Json.Sendable
import NetSteward.Schema.Record
import NetSteward.Text.Percent
import NetSteward.Web.Multipart
/-!
# Bodies of requests

A body is JSON, if its content type says so, or a form, or something that
is not read. An endpoint that takes a record reads it from JSON only, and
one that takes a form from a form only.
-/

namespace NetSteward

namespace Web

/-- A body, as far as it is read. -/
inductive Body
  | absent
  | json (value : Json)
  /-- A body that is no JSON, and not meant to be. -/
  | foreign
  /-- A form: its fields in order. -/
  | form (fields : Fields)

namespace Body

/-- Why a body is refused. -/
inductive Fault
  /-- JSON text is malformed at an offset. -/
  | malformed (offset : Nat)
  /-- JSON text is not encoded as it should be, or goes beyond what is
  taken. -/
  | unreadable
  /-- A form is refused. -/
  | form (fault : Multipart.Fault)

/-- A content type without its parameters, in lower case. -/
def mediaType (contentType : String) : String :=
  Text.asciiLower (String.ofList
    (Text.strip Text.isBlank (Text.cutAt ';' contentType.toList).1))

/-- Whether a content type is one of JSON. -/
def isJsonType (contentType : String) : Bool :=
  match Text.splitAll '/' (mediaType contentType).toList with
  | [main, sub] =>
    main == "application".toList && (sub == "json".toList || sub.reverse.take 5 == "nosj+".toList)
  | _ => false

/-- Reads the body of a request that is to hold a record. -/
def ofRecordBytes (contentType : String) (bytes : Bytes) : Except Fault Body :=
  if bytes.isEmpty then .ok .absent
  else if !isJsonType contentType then .ok .foreign
  else match Json.textOfBytes? bytes with
    | none => .error .unreadable
    | some cs => match Json.read cs with
      | .ok j => .ok (.json j)
      | .error (.malformed offset) => .error (.malformed offset)
      | .error _ => .error .unreadable

/-- The field of a form, which may lack a value. -/
def field (cs : List Char) : String × FieldValue :=
  let (name, value) := Text.cutAt '=' cs
  (String.ofList (Percent.decodeField name), .text (String.ofList (Percent.decodeField value)))

/-- Reads the body of a request that is to hold a form, on one line or in
parts. Of another content type, a form without fields is read. -/
def ofFormBytes (contentType : String) (bytes : Bytes) : Except Fault Body :=
  let type := Parameterized.ofText contentType
  if type.word = "application/x-www-form-urlencoded" then
    let pieces := (Text.splitAll '&' (Charset.bytewise bytes)).filter fun cs => !cs.isEmpty
    if Multipart.countLimit < pieces.length then .error (.form .tooManyFields)
    else .ok (.form (pieces.map field))
  else if type.word = "multipart/form-data" then
    match Multipart.fields type.parameters bytes with
    | .ok fields => .ok (.form fields)
    | .error fault => .error (.form fault)
  else .ok (.form [])

/-- The record that a body holds. -/
def record {α : Type} (check : Json → Checked α) (body : Body) : Checked α :=
  Checked.within (.member "body") <| match body with
    | absent => .issue .missing
    | json j => check j
    | foreign => .issue .notReadable
    | form _ => .issue .notReadable

/-- The last value of a field of a form; an empty one counts as
absent. -/
def formValue? (fields : Fields) (name : String) : Option FieldValue :=
  match Keyed.get? fields.reverse name with
  | some (.text "") => none
  | value => value

/-- The text of a field of a form, if it is there. A file is no text. -/
def optionalField (fields : Fields) (name : String) : Checked (Option String) :=
  match formValue? fields name with
  | some (.text s) => .ok (some s)
  | some .file => (Checked.issue .notText).within (.member name)
  | none => .ok none

/-- The text of a field of a form, which must be there. -/
def requiredField (fields : Fields) (name : String) : Checked String :=
  (optionalField fields name).andThen fun
    | some s => .ok s
    | none => (Checked.issue .missing).within (.member name)

/-- What is presented for a token. -/
structure Credentials where
  id : String
  secret : String

/-- The grant type of a form, if one is given, must be the one that is
served. -/
def grantField (fields : Fields) : Checked Unit :=
  (optionalField fields "grant_type").andThen fun
    | some value =>
      if Pattern.accepts .passwordGrant value.toList then .ok ()
      else (Checked.issue (.mismatch .passwordGrant)).within (.member "grant_type")
    | none => .ok ()

/-- The credentials that a form presents. Some more fields may be there,
as texts. -/
def credentials (body : Body) : Checked Credentials :=
  let fields := match body with
    | form fields => fields
    | _ => []
  Checked.within (.member "body") <|
    (fun _ id secret _ _ _ => Credentials.mk id secret) <$> grantField fields <*>
      requiredField fields "username" <*> requiredField fields "password" <*>
      optionalField fields "scope" <*> optionalField fields "client_id" <*>
      optionalField fields "client_secret"

/-- Whether the issues of a request can be reported: a report quotes what
each issue of a JSON body is about, so that must be fit to be sent. -/
def canReport (body : Body) (issues : List Issue) : Bool :=
  match body with
  | json j => issues.all fun i => (i.offending (.obj [("body", j)])).isSendable
  | _ => true

end Body

end Web

end NetSteward
