import NetSteward.Json.Access
import NetSteward.Json.Sendable
import NetSteward.Schema.Record
/-!
# DNS configurations of a VPC

A VPC resolves names through a resolver of one of three types: the
system's, servers named one by one, or the resolver of another VPC, to
which it delegates. `Changes` is the part of a configuration that can be
changed, `Desired` adds the VPC, and `State` is what was realized, as
read back from the service.

The service is not bound to answer with values of the expected types. A
state keeps such values as they came: its open fields hold JSON values.
`State.check` is what a state has to pass when it is loaded again.
-/

namespace NetSteward

namespace Dns

/-- The types of resolver. -/
inductive ResolverType
  | system
  | manual
  | delegated
deriving DecidableEq

namespace ResolverType

/-- The published name of a type. -/
def name : ResolverType → String
  | system => "system"
  | manual => "manual"
  | delegated => "delegated"

/-- The types by name. -/
def named : List (String × ResolverType) :=
  [(name system, system), (name manual, manual), (name delegated, delegated)]

/-- Reads a type from its name. -/
def check : Json → Checked ResolverType := Schema.choice named

/-- A type as a JSON value. -/
def toJson (t : ResolverType) : Json := .str t.name

end ResolverType

/-- A DNS server, perhaps bound to a zone. -/
structure ManualServer where
  address : String
  zoneAffinity : Option String

namespace ManualServer

/-- Reads a server. -/
def check (origin : Schema.Origin) : Json → Checked ManualServer :=
  Schema.record origin "ManualServer" fun ms =>
    ManualServer.mk <$> Schema.required "address" Schema.text ms <*>
      Schema.optionalText "zone_affinity" ms

/-- The members of a server. -/
def members (s : ManualServer) : Keyed Json :=
  [("address", .str s.address), ("zone_affinity", .ofOption s.zoneAffinity)]

/-- A server as a JSON value. -/
def toJson (s : ManualServer) : Json := .obj s.members

end ManualServer

/-- Servers as a JSON value. -/
def serversJson (servers : List ManualServer) : Json := .arr (servers.map ManualServer.toJson)

/-- Reads a list of servers, empty if it is absent. -/
def serversField (origin : Schema.Origin) (ms : Keyed Json) : Checked (List ManualServer) :=
  Schema.defaulted "manual_servers" [] (Schema.list (ManualServer.check origin)) ms

/-! ## What can be asked for -/

/-- The part of a configuration that can be changed. -/
structure Changes where
  enableHub : Bool
  resolverType : ResolverType
  resolverVpcId : Option String
  resolverVpcCrn : Option String
  bindingName : Option String
  manualServers : List ManualServer

namespace Changes

/-- Reads the fields of a change. -/
def fields (origin : Schema.Origin) (ms : Keyed Json) : Checked Changes :=
  Changes.mk <$> Schema.defaulted "enable_hub" false Schema.boolean ms <*>
    Schema.defaulted "resolver_type" .system ResolverType.check ms <*>
    Schema.defaulted "resolver_vpc_id" none (Schema.nullable Schema.identifier) ms <*>
    Schema.optionalText "resolver_vpc_crn" ms <*>
    Schema.optionalText "dns_binding_name" ms <*>
    serversField origin ms

/-- Reads a change. -/
def check (origin : Schema.Origin) : Json → Checked Changes :=
  Schema.record origin "DnsConfigSettings" (fields origin)

/-- The members of a change. -/
def members (c : Changes) : Keyed Json :=
  [("enable_hub", .bool c.enableHub), ("resolver_type", c.resolverType.toJson),
    ("resolver_vpc_id", .ofOption c.resolverVpcId),
    ("resolver_vpc_crn", .ofOption c.resolverVpcCrn),
    ("dns_binding_name", .ofOption c.bindingName),
    ("manual_servers", serversJson c.manualServers)]

/-- A change as a JSON value. -/
def toJson (c : Changes) : Json := .obj c.members

end Changes

/-- The configuration that a VPC is to have. -/
structure Desired extends Changes where
  vpcId : String

namespace Desired

/-- Reads a desired configuration. -/
def check (origin : Schema.Origin) : Json → Checked Desired :=
  Schema.record origin "CreateDnsConfigRequest" fun ms =>
    Desired.mk <$> Changes.fields origin ms <*> Schema.required "vpc_id" Schema.identifier ms

/-- A desired configuration as a JSON value. -/
def toJson (d : Desired) : Json :=
  .obj (d.toChanges.members ++ [("vpc_id", .str d.vpcId)])

/-- The configuration that a change asks for a VPC, if the VPC has an
admissible identifier. -/
def ofChanges (vpcId : Json) (c : Changes) : Checked Desired :=
  Desired.mk c <$> (Schema.identifier vpcId).within (.member "vpc_id")

end Desired

/-! ## What was realized -/

/-- A realized configuration. The binding is the one through which the
VPC delegates. -/
structure State where
  id : String
  vpcId : String
  enableHub : Bool
  resolverType : Json
  resolverVpcId : Json
  resolverVpcCrn : Json
  bindingName : Json
  manualServers : List ManualServer
  bindingCount : Json
  bindingId : Json

namespace State

/-- The title under which a state is published. -/
def title : String := "DnsConfigState"

/-- Reads a state whose open fields have the expected types. -/
def check (origin : Schema.Origin) : Json → Checked State :=
  Schema.record origin title fun ms =>
    State.mk <$> Schema.required "id" Schema.text ms <*>
      Schema.required "vpc_id" Schema.text ms <*>
      Schema.defaulted "enable_hub" false Schema.boolean ms <*>
      Schema.defaulted "resolver_type" (ResolverType.toJson .system)
        (fun j => ResolverType.toJson <$> ResolverType.check j) ms <*>
      (Json.ofOption <$> Schema.optionalText "resolver_vpc_id" ms) <*>
      (Json.ofOption <$> Schema.optionalText "resolver_vpc_crn" ms) <*>
      (Json.ofOption <$> Schema.optionalText "dns_binding_name" ms) <*>
      serversField origin ms <*>
      Schema.defaulted "resolution_binding_count" (.int 0)
        (fun j => Json.int <$> Schema.integer j) ms <*>
      (Json.ofOption <$> Schema.optionalText "dns_resolution_binding_id" ms)

/-- A state as a JSON value. -/
def toJson (s : State) : Json :=
  .obj [("id", .str s.id), ("vpc_id", .str s.vpcId), ("enable_hub", .bool s.enableHub),
    ("resolver_type", s.resolverType), ("resolver_vpc_id", s.resolverVpcId),
    ("resolver_vpc_crn", s.resolverVpcCrn), ("dns_binding_name", s.bindingName),
    ("manual_servers", serversJson s.manualServers),
    ("resolution_binding_count", s.bindingCount),
    ("dns_resolution_binding_id", s.bindingId)]

/-- A state with nothing in its open fields that cannot be sent: numbers
that are not finite are left out, and a truth value counts as one or
zero. -/
def settled (s : State) : State :=
  { s with
    resolverType := s.resolverType.finite
    resolverVpcId := s.resolverVpcId.finite
    resolverVpcCrn := s.resolverVpcCrn.finite
    bindingName := s.bindingName.finite
    bindingCount := match s.bindingCount with
      | .bool b => .int (if b then 1 else 0)
      | count => count.finite
    bindingId := s.bindingId.finite }

/-- The attributes of a state, as they are recorded and sent to
callers. -/
def attributes (s : State) : Json := s.settled.toJson

/-- The state of a VPC of which nothing is known yet. -/
def ofText (vpcId : String) : State where
  id := vpcId
  vpcId := vpcId
  enableHub := false
  resolverType := ResolverType.toJson .system
  resolverVpcId := .null
  resolverVpcCrn := .null
  bindingName := .null
  manualServers := []
  bindingCount := .int 0
  bindingId := .null

/-- The state of a VPC of which nothing is known yet, if its identifier is
a text. -/
def blank (vpcId : Json) : Checked State :=
  (fun id _ => ofText id) <$> (Schema.text vpcId).within (.member "id") <*>
    (Schema.text vpcId).within (.member "vpc_id")

/-- Whether the resolver is recorded as delegated. -/
def isDelegated (s : State) : Bool := s.resolverType.isStr (ResolverType.name .delegated)

/-- Whether a binding is recorded. -/
def hasBinding (s : State) : Bool := s.bindingId.isGiven

end State

/-- Several states, with their number. -/
structure Listing where
  count : Int
  configs : List State

namespace Listing

/-- Reads a listing. -/
def check (origin : Schema.Origin) : Json → Checked Listing :=
  Schema.record origin "DnsConfigListResponse" fun ms =>
    Listing.mk <$> Schema.required "count" Schema.integer ms <*>
      Schema.required "dns_configs" (Schema.list (State.check origin)) ms

/-- A listing as a JSON value. -/
def toJson (l : Listing) : Json :=
  .obj [("count", .int l.count), ("dns_configs", .arr (l.configs.map State.toJson))]

/-- The listing of some states. -/
def ofStates (states : List State) : Listing := ⟨states.length, states⟩

end Listing

end Dns

end NetSteward
