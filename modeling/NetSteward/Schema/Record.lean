import NetSteward.Schema.Scalar
/-!
# Records

A record is read from the members of an object; members it does not know
are ignored. What is reported for a value that is no object depends on
where the value comes from.
-/

namespace NetSteward

namespace Schema

/-- Where a value comes from: it was handed over as data, or posted in a
request. -/
inductive Origin
  | data
  | request
deriving DecidableEq

/-- What is wrong with a value that is no object. -/
def Origin.notARecord (origin : Origin) (title : String) : Issue.Cause :=
  match origin with
  | data => .notRecord title
  | request => .notReadable

/-- Reads a record with a published title from an object. -/
def record {α : Type} (origin : Origin) (title : String)
    (fields : Keyed Json → Checked α) : Json → Checked α
  | .obj members => fields members
  | _ => .issue (origin.notARecord title)

/-- A field that must be there. -/
def required {α : Type} (field : String) (check : Json → Checked α) (members : Keyed Json) :
    Checked α :=
  match Keyed.get? members field with
  | none => (Checked.issue .missing).within (.member field)
  | some j => (check j).within (.member field)

/-- A field with a default. -/
def defaulted {α : Type} (field : String) (default : α) (check : Json → Checked α)
    (members : Keyed Json) : Checked α :=
  match Keyed.get? members field with
  | none => .ok default
  | some j => (check j).within (.member field)

/-- A text field that may be absent or null. -/
def optionalText (field : String) (members : Keyed Json) : Checked (Option String) :=
  defaulted field none (nullable text) members

end Schema

end NetSteward
