import NetSteward.Dns.Patch
import NetSteward.Remote.Call
import NetSteward.Remote.Link
import NetSteward.Resource
import NetSteward.Store.Fault
/-!
# Failures of operations

An operation that does not return ends in one of these failures. Some
are meant for the caller: they have a status and a message, and
everything else is an internal error.
-/

namespace NetSteward

/-- Why an operation failed. -/
inductive Failure
  /-- The desired configuration violates a constraint. -/
  | violation (violation : Dns.Violation)
  /-- The link to the service cannot be set up. -/
  | unlinked (fault : Remote.Link.Fault)
  /-- The service refused a call that was made for a purpose. -/
  | refused (purpose : String) (refusal : Remote.Refusal)
  /-- The connection to the service failed. -/
  | disconnected (reason : String)
  /-- A resource is not managed or no longer exists. -/
  | gone (kind : ResourceKind) (id : Json)
  /-- A value cannot be read. -/
  | unreadable (cause : Unreadable)
  /-- The state table reported an error. -/
  | store (error : Store.TableError)

namespace Failure

/-- The message about a resource that is gone. -/
def goneMessage (kind id : String) : String := kind ++ " '" ++ id ++ "' no longer exists."

/-- The message about a refused call. -/
def refusedMessage (purpose : String) (refusal : Remote.Refusal) : String :=
  purpose ++ ": " ++ refusal.message

/-- The kinds of failure that callers are told about. -/
inductive Kind
  | violation
  | unlinked
  /-- The service refused a call, with a status or with null. -/
  | refused (status : Json)
  | gone
  | unknownVariant
  /-- A failure of no kind in particular. -/
  | unspecific

/-- The status under which a kind of failure is reported: the fault of
the caller, of the service behind, or of the settings. A refusal with
one of two statuses is passed on with it. -/
def Kind.httpStatus : Kind → Json
  | violation => .int 400
  | gone => .int 404
  | refused status =>
    if status.same (.int 404) || status.same (.int 409) then status else .int 502
  | unknownVariant => .int 502
  | unlinked => .int 500
  | unspecific => .int 500

/-- The kind and the message of a failure that callers are told
about. -/
def report? : Failure → Option (Kind × String)
  | violation v => some (.violation, v.message)
  | unlinked f => some (.unlinked, f.message)
  | refused purpose r => some (.refused r.status, refusedMessage purpose r)
  | gone kind id => some (.gone, goneMessage kind.name id.plain)
  | unreadable (.unknownVariant part value) =>
    some (.unknownVariant, Unreadable.variantMessage part value)
  | unreadable (.wrongVariant part title) =>
    some (.unknownVariant, Unreadable.titleMessage part title)
  | _ => none

end Failure

end NetSteward
