import NetSteward.Schema.Record
import NetSteward.Schema.Unreadable
/-!
# Routes of a routing table

A route says where packets go next and, if a VPN made it, who created
it. Both parts come in variants, which the service tells apart only by
the form of the object; here each variant carries its kind.
-/

namespace NetSteward

/-- Reads one of several variants, told apart by the member `kind`. Halves
of characters in a kind that is not known are not reported. -/
def Schema.tagged {α : Type} (variants : List (String × (Json → Checked α))) (j : Json) :
    Checked α :=
  match j with
  | .obj ms =>
    match Keyed.get? ms "kind" with
    | none => .issue .noTag
    | some (.str tag) =>
      match Keyed.get? variants tag with
      | some check => (check j).within (.member tag)
      | none =>
        .issue (.unknownTag (String.ofList (Text.withoutHalves tag.toList)) (Keyed.keys variants))
    | some other => .issue (.unknownTag other.display (Keyed.keys variants))
  | _ => .issue .notReadable

/-- Reads the kind of a variant, which may be left out. -/
def Schema.kindField (kind : String) (ms : Keyed Json) : Checked Unit :=
  Schema.defaulted "kind" () (Schema.choice [(kind, ())]) ms

namespace Route

/-- The mark of a resource that was deleted. -/
structure Deleted where
  moreInfo : String

namespace Deleted

/-- Reads a mark. -/
def check (origin : Schema.Origin) : Json → Checked Deleted :=
  Schema.record origin "ReferenceDeleted" fun ms =>
    Deleted.mk <$> Schema.required "more_info" Schema.text ms

/-- A mark as a JSON value. -/
def toJson (d : Deleted) : Json := .obj [("more_info", .str d.moreInfo)]

/-- An optional mark as a JSON value. -/
def optionJson : Option Deleted → Json
  | none => .null
  | some d => d.toJson

/-- Reads an optional mark. -/
def field (origin : Schema.Origin) (ms : Keyed Json) : Checked (Option Deleted) :=
  Schema.defaulted "deleted" none (Schema.nullable (check origin)) ms

/-- Reads the mark in an answer, if one is given. -/
def ofAnswer (data : Json) : Read (Option Deleted) := do
  let deleted ← shaped (data.find "deleted")
  if deleted.isGiven then
    let moreInfo ← shaped (deleted.require "more_info")
    checked (some <$> check .data (.obj [("more_info", moreInfo)]))
  else return none

end Deleted

/-! ## Where packets go next -/

/-- A connection of a VPN gateway. -/
structure Connection where
  id : String
  href : Option String
  name : Option String
  resourceType : Option String
  deleted : Option Deleted

/-- The next hop of a route. -/
inductive NextHop
  | ip (address : String)
  | vpnConnection (connection : Connection)

namespace NextHop

/-- The kind of a next hop that is an address. -/
def ipKind : String := "ip"

/-- The kind of a next hop that is a connection. -/
def connectionKind : String := "vpn_gateway_connection"

/-- The kind of a next hop. -/
def kind : NextHop → String
  | ip _ => ipKind
  | vpnConnection _ => connectionKind

/-- Reads an address. -/
def checkIp (origin : Schema.Origin) : Json → Checked NextHop :=
  Schema.record origin "RouteNextHopIP" fun ms =>
    (fun _ address => ip address) <$> Schema.kindField ipKind ms <*>
      Schema.required "address" Schema.text ms

/-- Reads a connection. -/
def checkConnection (origin : Schema.Origin) : Json → Checked NextHop :=
  Schema.record origin "RouteNextHopVPNGatewayConnection" fun ms =>
    (fun _ id href name resourceType deleted =>
        vpnConnection ⟨id, href, name, resourceType, deleted⟩) <$>
      Schema.kindField connectionKind ms <*> Schema.required "id" Schema.text ms <*>
      Schema.optionalText "href" ms <*> Schema.optionalText "name" ms <*>
      Schema.optionalText "resource_type" ms <*> Deleted.field origin ms

/-- Reads a next hop of either kind. -/
def check (origin : Schema.Origin) : Json → Checked NextHop :=
  Schema.tagged [(ipKind, checkIp origin), (connectionKind, checkConnection origin)]

/-- A next hop as a JSON value. -/
def toJson : NextHop → Json
  | ip address => .obj [("kind", .str ipKind), ("address", .str address)]
  | vpnConnection c =>
    .obj [("kind", .str connectionKind), ("id", .str c.id), ("href", .ofOption c.href),
      ("name", .ofOption c.name), ("resource_type", .ofOption c.resourceType),
      ("deleted", Deleted.optionJson c.deleted)]

/-- Reads the next hop in an answer: an address if there is one, else a
connection if there is an identifier. -/
def ofAnswer (data : Json) : Read NextHop := do
  let address ← shaped (data.find "address")
  let id ← shaped (data.find "id")
  if !address.isNull then checked (checkIp .data (.obj [("address", address)]))
  else if !id.isNull then
    let href ← shaped (data.find "href")
    let name ← shaped (data.find "name")
    let resourceType ← shaped (data.find "resource_type")
    let deleted ← Deleted.ofAnswer data
    checked (checkConnection .data (.obj [("id", id), ("href", href), ("name", name),
      ("resource_type", resourceType), ("deleted", Deleted.optionJson deleted)]))
  else .error (.unknownVariant .nextHop data)

/-- The short text of a next hop: its address or its connection. -/
def short : NextHop → String
  | ip address => address
  | vpnConnection c => c.id

end NextHop

/-! ## Who created a route -/

/-- The kinds of creator. -/
inductive CreatorKind
  | vpnGateway
  | vpnServer
deriving DecidableEq

/-- The published name of a kind of creator. -/
def CreatorKind.name : CreatorKind → String
  | vpnGateway => "vpn_gateway"
  | vpnServer => "vpn_server"

/-- The title under which a kind of creator is published. -/
def CreatorKind.title : CreatorKind → String
  | vpnGateway => "RouteCreatorVPNGateway"
  | vpnServer => "RouteCreatorVPNServer"

/-- What is known of the creator of a route, of whatever kind. -/
structure CreatorReference where
  crn : Option String
  href : Option String
  id : String
  name : Option String
  resourceType : Option String
  deleted : Option Deleted

namespace CreatorReference

/-- The title under which a reference of no kind is published. -/
def title : String := "_CreatorReference"

/-- Reads the fields of a reference. -/
def fields (origin : Schema.Origin) (ms : Keyed Json) : Checked CreatorReference :=
  CreatorReference.mk <$> Schema.optionalText "crn" ms <*> Schema.optionalText "href" ms <*>
    Schema.required "id" Schema.text ms <*> Schema.optionalText "name" ms <*>
    Schema.optionalText "resource_type" ms <*> Deleted.field origin ms

/-- Reads a reference. -/
def check (origin : Schema.Origin) : Json → Checked CreatorReference :=
  Schema.record origin title (fields origin)

/-- The members of a reference. -/
def members (r : CreatorReference) : Keyed Json :=
  [("crn", .ofOption r.crn), ("href", .ofOption r.href), ("id", .str r.id),
    ("name", .ofOption r.name), ("resource_type", .ofOption r.resourceType),
    ("deleted", Deleted.optionJson r.deleted)]

/-- A reference as a JSON value. -/
def toJson (r : CreatorReference) : Json := .obj r.members

end CreatorReference

/-- The creator of a route. -/
structure Creator extends CreatorReference where
  kind : CreatorKind

namespace Creator

/-- Reads a creator of one kind. -/
def checkKind (origin : Schema.Origin) (kind : CreatorKind) : Json → Checked Creator :=
  Schema.record origin kind.title fun ms =>
    (fun reference _ => Creator.mk reference kind) <$>
      CreatorReference.fields origin ms <*> Schema.kindField kind.name ms

/-- Reads a creator of either kind. -/
def check (origin : Schema.Origin) : Json → Checked Creator :=
  Schema.tagged [(CreatorKind.name .vpnGateway, checkKind origin .vpnGateway),
    (CreatorKind.name .vpnServer, checkKind origin .vpnServer)]

/-- A creator as a JSON value. -/
def toJson (c : Creator) : Json := .obj (c.members ++ [("kind", .str c.kind.name)])

/-- The kind of creator that a resource type names. -/
def kindOf? (data resourceType : Json) : Read CreatorKind :=
  match resourceType with
  | .str s =>
    if s = CreatorKind.name .vpnGateway then .ok .vpnGateway
    else if s = CreatorKind.name .vpnServer then .ok .vpnServer
    else .error (.unknownVariant .creator data)
  | .arr _ => .error (.shape .notAName)
  | .obj _ => .error (.shape .notAName)
  | _ => .error (.unknownVariant .creator data)

/-- Reads the creator in an answer. -/
def ofAnswer (data : Json) : Read Creator := do
  let resourceType ← shaped (data.find "resource_type")
  let kind ← kindOf? data resourceType
  let crn ← shaped (data.find "crn")
  let href ← shaped (data.find "href")
  let id ← shaped (data.require "id")
  let name ← shaped (data.find "name")
  let deleted ← Deleted.ofAnswer data
  checked (checkKind .data kind (.obj [("crn", crn), ("href", href), ("id", id), ("name", name),
    ("resource_type", resourceType), ("deleted", Deleted.optionJson deleted)]))

end Creator

end Route

/-! ## Routes -/

/-- A route of a routing table. -/
structure Route where
  id : String
  href : Option String
  name : Option String
  createdAt : Option String
  action : Option String
  destination : Option String
  lifecycleState : Option String
  origin : Option String
  zone : Option String
  nexthop : Option String
  nextHop : Option Route.NextHop
  creator : Option Route.Creator

namespace Route

/-- The title under which a route is published. -/
def title : String := "Route"

/-- Reads the fields of a route, given how its parts are read. -/
def fields (nextHop : Keyed Json → Checked (Option NextHop))
    (creator : Keyed Json → Checked (Option Creator)) (ms : Keyed Json) : Checked Route :=
  Route.mk <$> Schema.required "id" Schema.text ms <*> Schema.optionalText "href" ms <*>
    Schema.optionalText "name" ms <*> Schema.optionalText "created_at" ms <*>
    Schema.optionalText "action" ms <*> Schema.optionalText "destination" ms <*>
    Schema.optionalText "lifecycle_state" ms <*> Schema.optionalText "origin" ms <*>
    Schema.optionalText "zone" ms <*> Schema.optionalText "nexthop" ms <*>
    nextHop ms <*> creator ms

/-- Reads a route. -/
def check (origin : Schema.Origin) : Json → Checked Route :=
  Schema.record origin title <| fields
    (Schema.defaulted "next_hop_details" none (Schema.nullable (NextHop.check origin)))
    (Schema.defaulted "creator" none (Schema.nullable (Creator.check origin)))

/-- The plain members of a route. -/
def plainMembers (r : Route) : Keyed Json :=
  [("id", .str r.id), ("href", .ofOption r.href), ("name", .ofOption r.name),
    ("created_at", .ofOption r.createdAt), ("action", .ofOption r.action),
    ("destination", .ofOption r.destination), ("lifecycle_state", .ofOption r.lifecycleState),
    ("origin", .ofOption r.origin), ("zone", .ofOption r.zone),
    ("nexthop", .ofOption r.nexthop)]

/-- A route as a JSON value. -/
def toJson (r : Route) : Json :=
  .obj (r.plainMembers ++
    [("next_hop_details", match r.nextHop with
      | none => .null
      | some n => n.toJson),
    ("creator", match r.creator with
      | none => .null
      | some c => c.toJson)])

/-- Reads the next hop of a route in an answer, if one is given. -/
def nextHopOfAnswer (data : Json) : Read (Option NextHop) := do
  if (← shaped (data.find "next_hop")).isGiven then
    return some (← NextHop.ofAnswer (← shaped (data.require "next_hop")))
  else return none

/-- Reads the creator of a route in an answer, if one is given. -/
def creatorOfAnswer (data : Json) : Read (Option Creator) := do
  if (← shaped (data.find "creator")).isGiven then
    return some (← Creator.ofAnswer (← shaped (data.require "creator")))
  else return none

/-- Reads the route in an answer. -/
def ofAnswer (data : Json) : Read Route := do
  let nextHop ← nextHopOfAnswer data
  let creator ← creatorOfAnswer data
  let id ← shaped (data.require "id")
  let href ← shaped (data.find "href")
  let name ← shaped (data.find "name")
  let createdAt ← shaped (data.find "created_at")
  let action ← shaped (data.find "action")
  let destination ← shaped (data.find "destination")
  let lifecycleState ← shaped (data.find "lifecycle_state")
  let origin ← shaped (data.find "origin")
  let zone ← shaped ((← shaped (data.find "zone")).orEmpty.find "name")
  checked <| fields (fun _ => .ok nextHop) (fun _ => .ok creator)
    [("id", id), ("href", href), ("name", name), ("created_at", createdAt), ("action", action),
      ("destination", destination), ("lifecycle_state", lifecycleState), ("origin", origin),
      ("zone", zone), ("nexthop", .ofOption (nextHop.map NextHop.short))]

end Route

end NetSteward
