import NetSteward.Dns.Config
import NetSteward.Schema.Unreadable
/-!
# Constraints, patches and projections

A desired configuration has to satisfy the constraints of its resolver
type before anything is sent. `Desired.patch` is the body that brings a
VPC into it, and `State.project` reads the DNS block of a VPC back onto
a state: what the block says replaces what the state said, and the
binding fields stay.
-/

namespace NetSteward

namespace Dns

/-- The constraints that a desired configuration can violate. -/
inductive Violation
  /-- A delegated resolver without a VPC to delegate to. -/
  | noResolverVpc
  /-- A delegated resolver with its VPC given twice. -/
  | twoResolverVpcs
  /-- A delegated resolver on a hub. -/
  | delegatedHub
  /-- A manual resolver without servers. -/
  | noServers
deriving DecidableEq

/-- The message of a violation. -/
def Violation.message : Violation → String
  | noResolverVpc => "either resolver_vpc_id or resolver_vpc_crn must be specified " ++
      "when resolver_type is 'delegated'"
  | twoResolverVpcs => "only one of resolver_vpc_id or resolver_vpc_crn may be specified " ++
      "when resolver_type is 'delegated'"
  | delegatedHub => "enable_hub must be false when resolver_type is 'delegated'"
  | noServers => "manual_servers must be specified when resolver_type is 'manual'"

namespace Desired

/-- The first constraint that a configuration violates. -/
def violation? (d : Desired) : Option Violation :=
  match d.resolverType with
  | .system => none
  | .manual => if d.manualServers.isEmpty then some .noServers else none
  | .delegated =>
    if !isGiven d.resolverVpcId && !isGiven d.resolverVpcCrn then some .noResolverVpc
    else if isGiven d.resolverVpcId && isGiven d.resolverVpcCrn then some .twoResolverVpcs
    else if d.enableHub then some .delegatedHub
    else none

/-- The VPC to delegate to: by its identifier if that is given, else by
its CRN. -/
def resolverVpc (d : Desired) : Json :=
  if isGiven d.resolverVpcId then .obj [("id", .ofOption d.resolverVpcId)]
  else .obj [("crn", .ofOption d.resolverVpcCrn)]

end Desired

/-- A server in a patch: the zone is named only if it is given. -/
def ManualServer.patch (s : ManualServer) : Json :=
  .obj (("address", .str s.address) ::
    if isGiven s.zoneAffinity then [("zone_affinity", .obj [("name", .ofOption s.zoneAffinity)])]
    else [])

/-- The body that sets the DNS block of a VPC. -/
def patchBody (enableHub : Bool) (resolver : Keyed Json) : Json :=
  .obj [("dns", .obj [("enable_hub", .bool enableHub), ("resolver", .obj resolver)])]

/-- The patch that brings a VPC into a desired configuration. -/
def Desired.patch (d : Desired) : Json :=
  patchBody d.enableHub <| ("type", d.resolverType.toJson) ::
    match d.resolverType with
    | .system => []
    | .manual => [("manual_servers", .arr (d.manualServers.map ManualServer.patch))]
    | .delegated => [("vpc", d.resolverVpc)]

/-- The patch that resets a VPC to the system's resolver. -/
def systemPatch : Json := patchBody false [("type", ResolverType.toJson .system)]

/-- Whether a desired configuration delegates to another VPC than the
recorded one. -/
def targetChanged (prior : State) (d : Desired) : Bool :=
  if isGiven d.resolverVpcId then !Json.same (.ofOption d.resolverVpcId) prior.resolverVpcId
  else !Json.same (.ofOption d.resolverVpcCrn) prior.resolverVpcCrn

/-! ## Reading a DNS block back -/

/-- A server of a block. -/
def ManualServer.ofBlock (server : Json) : Read ManualServer := do
  let address ← shaped (server.require "address")
  let zone ← shaped (server.find "zone_affinity")
  let name ← shaped (zone.orEmpty.find "name")
  checked (ManualServer.check .data (.obj [("address", address), ("zone_affinity", name)]))

/-- A state overlaid with a DNS block. -/
def State.project (prior : State) (dns : Json) : Read State := do
  let resolver := (← shaped (dns.find "resolver")).orEmpty
  let type ← shaped (resolver.find "type")
  let servers ← shaped ((← shaped (resolver.find "manual_servers")).iterateGiven)
  let servers ← readEach ManualServer.ofBlock servers
  let vpc := (← shaped (resolver.find "vpc")).orEmpty
  let hub ← shaped (dns.find? "enable_hub")
  let count ← shaped (dns.find "resolution_binding_count")
  let vpcId ← shaped (vpc.find "id")
  let vpcCrn ← shaped (vpc.find "crn")
  return { prior with
    enableHub := match hub with
      | some j => j.isGiven
      | none => prior.enableHub
    bindingCount := if count.isGiven then count else .int 0
    resolverType := if type.isGiven then type else prior.resolverType
    manualServers := servers
    resolverVpcId := vpcId
    resolverVpcCrn := vpcCrn }

end Dns

end NetSteward
