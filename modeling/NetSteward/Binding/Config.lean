import NetSteward.Schema.Record
import NetSteward.Schema.Unreadable
/-!
# DNS resolution bindings

A binding lets a VPC resolve names through a hub VPC. `Request` and
`Renaming` are what can be asked for; `Binding` is one as the service
returns it, together with the VPC that owns it.
-/

namespace NetSteward

/-- A reference to another resource. -/
structure Reference where
  crn : Option String
  href : Option String
  id : Option String
  name : Option String
  resourceType : Option String

namespace Reference

/-- The title of the reference to the hub of a binding. -/
def hubTitle : String := "BoundVPCReference"

/-- The title of the reference to an endpoint gateway. -/
def gatewayTitle : String := "EndpointGatewayReference"

/-- Reads a reference that is published under a title. -/
def check (origin : Schema.Origin) (title : String) : Json → Checked Reference :=
  Schema.record origin title fun ms =>
    Reference.mk <$> Schema.optionalText "crn" ms <*> Schema.optionalText "href" ms <*>
      Schema.optionalText "id" ms <*> Schema.optionalText "name" ms <*>
      Schema.optionalText "resource_type" ms

/-- A reference as a JSON value. -/
def toJson (r : Reference) : Json :=
  .obj [("crn", .ofOption r.crn), ("href", .ofOption r.href), ("id", .ofOption r.id),
    ("name", .ofOption r.name), ("resource_type", .ofOption r.resourceType)]

/-- Reads the reference in an answer. -/
def ofAnswer (title : String) (j : Json) : Read Reference := do
  let crn ← shaped (j.find "crn")
  let href ← shaped (j.find "href")
  let id ← shaped (j.find "id")
  let name ← shaped (j.find "name")
  let resourceType ← shaped (j.find "resource_type")
  checked (check .data title (.obj [("crn", crn), ("href", href), ("id", id), ("name", name),
    ("resource_type", resourceType)]))

end Reference

namespace Binding

/-- A request for a binding: the hub is given by its identifier, its CRN
or its address. -/
structure Request where
  name : Option String
  vpcId : Option String
  vpcCrn : Option String
  vpcHref : Option String

namespace Request

/-- Reads a request. One of the three ways to name the hub has to be
used. -/
def check (origin : Schema.Origin) : Json → Checked Request :=
  Schema.record origin "CreateBindingRequest" fun ms =>
    (Request.mk <$> Schema.defaulted "name" none (Schema.nullable Schema.name) ms <*>
      Schema.optionalText "vpc_id" ms <*> Schema.optionalText "vpc_crn" ms <*>
      Schema.optionalText "vpc_href" ms).andThen fun r =>
        if isGiven r.vpcId || isGiven r.vpcCrn || isGiven r.vpcHref then .ok r
        else .issue .noTarget

/-- The identity of the hub, by identifier before CRN before address. -/
def hub (r : Request) : Json :=
  if isGiven r.vpcId then .obj [("id", .ofOption r.vpcId)]
  else if isGiven r.vpcCrn then .obj [("crn", .ofOption r.vpcCrn)]
  else .obj [("href", .ofOption r.vpcHref)]

/-- A request as a JSON value. -/
def toJson (r : Request) : Json :=
  .obj [("name", .ofOption r.name), ("vpc_id", .ofOption r.vpcId),
    ("vpc_crn", .ofOption r.vpcCrn), ("vpc_href", .ofOption r.vpcHref)]

end Request

/-- A request for another name. -/
structure Renaming where
  name : String

namespace Renaming

/-- Reads a renaming. -/
def check (origin : Schema.Origin) : Json → Checked Renaming :=
  Schema.record origin "UpdateBindingRequest" fun ms =>
    Renaming.mk <$> Schema.required "name" Schema.name ms

/-- A renaming as a JSON value; also the patch that is sent. -/
def toJson (r : Renaming) : Json := .obj [("name", .str r.name)]

end Renaming

end Binding

/-- A binding of a VPC. -/
structure Binding where
  id : String
  vpcId : String
  name : Option String
  createdAt : Option String
  healthState : Option String
  href : Option String
  lifecycleState : Option String
  resourceType : Option String
  hub : Option Reference
  gateways : List Reference

namespace Binding

/-- The title under which a binding is published. -/
def title : String := "DnsResolutionBinding"

/-- Reads the fields of a binding, given how its references are read. -/
def fields (hub : Keyed Json → Checked (Option Reference))
    (gateways : Keyed Json → Checked (List Reference)) (ms : Keyed Json) : Checked Binding :=
  Binding.mk <$> Schema.required "id" Schema.text ms <*>
    Schema.required "vpc_id" Schema.text ms <*>
    Schema.optionalText "name" ms <*> Schema.optionalText "created_at" ms <*>
    Schema.optionalText "health_state" ms <*> Schema.optionalText "href" ms <*>
    Schema.optionalText "lifecycle_state" ms <*> Schema.optionalText "resource_type" ms <*>
    hub ms <*> gateways ms

/-- Reads a binding. -/
def check (origin : Schema.Origin) : Json → Checked Binding :=
  Schema.record origin title <| fields
    (Schema.defaulted "vpc" none (Schema.nullable (Reference.check origin Reference.hubTitle)))
    (Schema.defaulted "endpoint_gateways" []
      (Schema.list (Reference.check origin Reference.gatewayTitle)))

/-- A binding as a JSON value. -/
def toJson (b : Binding) : Json :=
  .obj [("id", .str b.id), ("vpc_id", .str b.vpcId), ("name", .ofOption b.name),
    ("created_at", .ofOption b.createdAt), ("health_state", .ofOption b.healthState),
    ("href", .ofOption b.href), ("lifecycle_state", .ofOption b.lifecycleState),
    ("resource_type", .ofOption b.resourceType),
    ("vpc", match b.hub with
      | none => .null
      | some r => r.toJson),
    ("endpoint_gateways", .arr (b.gateways.map Reference.toJson))]

/-- Reads the binding of a VPC in an answer. The VPC, which the answer
does not name, is checked with the rest. -/
def ofAnswer (vpcId data : Json) : Read Binding := do
  let hub ← shaped (data.find "vpc")
  let id ← shaped (data.require "id")
  let name ← shaped (data.find "name")
  let createdAt ← shaped (data.find "created_at")
  let healthState ← shaped (data.find "health_state")
  let href ← shaped (data.find "href")
  let lifecycleState ← shaped (data.find "lifecycle_state")
  let resourceType ← shaped (data.find "resource_type")
  let hub ← if hub.isGiven then some <$> Reference.ofAnswer Reference.hubTitle hub else pure none
  let gateways ← shaped ((← shaped (data.find "endpoint_gateways")).iterateGiven)
  let gateways ← readEach (Reference.ofAnswer Reference.gatewayTitle) gateways
  checked <| fields (fun _ => .ok hub) (fun _ => .ok gateways)
    [("id", id), ("vpc_id", vpcId), ("name", name), ("created_at", createdAt),
      ("health_state", healthState), ("href", href), ("lifecycle_state", lifecycleState),
      ("resource_type", resourceType)]

/-- The bindings of a VPC, with their number. -/
structure Listing where
  vpcId : String
  count : Int
  bindings : List Binding

namespace Listing

/-- Reads a listing. -/
def check (origin : Schema.Origin) : Json → Checked Listing :=
  Schema.record origin "BindingListResponse" fun ms =>
    Listing.mk <$> Schema.required "vpc_id" Schema.text ms <*>
      Schema.required "count" Schema.integer ms <*>
      Schema.required "dns_resolution_bindings" (Schema.list (Binding.check origin)) ms

/-- A listing as a JSON value. -/
def toJson (l : Listing) : Json :=
  .obj [("vpc_id", .str l.vpcId), ("count", .int l.count),
    ("dns_resolution_bindings", .arr (l.bindings.map Binding.toJson))]

/-- The listing of some bindings of a VPC. -/
def ofBindings (vpcId : String) (bindings : List Binding) : Listing :=
  ⟨vpcId, bindings.length, bindings⟩

end Listing

end Binding

end NetSteward
