import NetSteward.Route.Config
/-!
# Attribute maps of routes

Callers get a route as a map of its attributes: what is not set is left
out, and each part is flattened to its own map, marked with its kind.
-/

namespace NetSteward

namespace Route

/-- The members that are not null. -/
def present (ms : Keyed Json) : Keyed Json := ms.filter fun e => !e.2.isNull

/-- The mark of a deleted resource as members of a map. -/
def Deleted.entries : Option Deleted → Keyed Json
  | none => []
  | some d => [("deleted", d.toJson)]

/-- The map of a next hop. -/
def NextHop.toMap : NextHop → Keyed Json
  | ip address => [("address", .str address)]
  | vpnConnection c =>
    present [("href", .ofOption c.href), ("id", .str c.id), ("name", .ofOption c.name),
      ("resource_type", .ofOption c.resourceType)] ++ Deleted.entries c.deleted

/-- The map of a creator. -/
def Creator.toMap (c : Creator) : Keyed Json :=
  present [("crn", .ofOption c.crn), ("href", .ofOption c.href), ("id", .str c.id),
    ("name", .ofOption c.name), ("resource_type", .ofOption c.resourceType)] ++
    Deleted.entries c.deleted

/-- The map of a route. -/
def toMap (r : Route) : Keyed Json :=
  present r.plainMembers ++
    (match r.nextHop with
      | none => []
      | some n => [("next_hop_details", .obj (("kind", .str n.kind) :: n.toMap))]) ++
    (match r.creator with
      | none => []
      | some c => [("creator", .obj (("kind", .str c.kind.name) :: c.toMap))])

/-- The routes of a routing table as maps, with their number. -/
structure Listing where
  vpcId : String
  routingTableId : String
  count : Int
  routes : List (Keyed Json)

namespace Listing

/-- Reads a listing. -/
def check (origin : Schema.Origin) : Json → Checked Listing :=
  Schema.record origin "RouteListResponse" fun ms =>
    Listing.mk <$> Schema.required "vpc_id" Schema.text ms <*>
      Schema.required "routing_table_id" Schema.text ms <*>
      Schema.required "count" Schema.integer ms <*>
      Schema.required "routes" (Schema.list Schema.object) ms

/-- A listing as a JSON value. -/
def toJson (l : Listing) : Json :=
  .obj [("vpc_id", .str l.vpcId), ("routing_table_id", .str l.routingTableId),
    ("count", .int l.count), ("routes", .arr (l.routes.map Json.obj))]

/-- The listing of the routes of a routing table. -/
def ofRoutes (vpcId routingTableId : String) (routes : List Route) : Listing :=
  ⟨vpcId, routingTableId, routes.length, routes.map toMap⟩

end Listing

end Route

end NetSteward
