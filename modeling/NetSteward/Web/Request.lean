import NetSteward.Json.Access
import NetSteward.Json.Sendable
import NetSteward.Json.Writer
import NetSteward.Text.Blank
/-!
# Requests

A request can be sent if its headers are texts of ASCII and what it
carries can be made into bytes. One that cannot be sent is not answered.
-/

namespace NetSteward

namespace Web

/-- What a request carries. -/
inductive Content
  | text (text : String)
  | json (value : Json)

/-- A request. The names of its headers are in lower case. -/
structure Request where
  method : String
  target : String
  headers : Keyed Json
  content : Content

namespace Request

/-- The value of the first header with a name, if it is a text. -/
def header? (r : Request) (name : String) : Option String :=
  match Keyed.get? r.headers name with
  | some (.str value) => some value
  | _ => none

/-- The request of a user that its target names: whoever its headers name
does not count. -/
def ofUser (r : Request) : Request :=
  { r with headers := Keyed.insert r.headers "authorization" (.str "Basic") }

/-- What is wrong with the headers, if anything is: the first that
objects decides. -/
def headersFault? : Keyed Json → Option Mismatch
  | [] => none
  | (name, .str value) :: rest =>
    if name.toList.all Text.isAscii && value.toList.all Text.isAscii then headersFault? rest
    else some .unencodable
  | (name, _) :: _ => some (if name.toList.all Text.isAscii then .notAName else .unencodable)

/-- The bytes of a text, which must hold characters only. -/
def textBytes (text : String) : Except Mismatch Bytes :=
  match Text.bytes? text.toList with
  | some bytes => .ok bytes
  | none => .error .unencodable

/-- The bytes of what a request carries. -/
def contentBytes : Content → Except Mismatch Bytes
  | .text text => textBytes text
  | .json value =>
    if !value.isFinite then .error .malformed
    else if !value.isSound then .error .unencodable
    else textBytes value.compact

/-- **The bytes of the body of a request**, if the request can be
sent. -/
def bytes (r : Request) : Except Mismatch Bytes :=
  match headersFault? r.headers with
  | some fault => .error fault
  | none => contentBytes r.content

end Request

end Web

end NetSteward
