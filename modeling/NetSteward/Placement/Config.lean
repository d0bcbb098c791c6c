import NetSteward.Schema.Record
import NetSteward.Schema.Unreadable
/-!
# Placement groups

A placement group spreads instances over hosts or over power sources.
`Request` and `Renaming` are what can be asked for; `PlacementGroup` is
one as the service returns it.
-/

namespace NetSteward

namespace PlacementGroup

/-- What a group spreads its instances over. -/
inductive Strategy
  | hostSpread
  | powerSpread
deriving DecidableEq

namespace Strategy

/-- The published name of a strategy. -/
def name : Strategy → String
  | hostSpread => "host_spread"
  | powerSpread => "power_spread"

/-- The strategies by name. -/
def named : List (String × Strategy) :=
  [(name hostSpread, hostSpread), (name powerSpread, powerSpread)]

/-- Reads a strategy from its name. -/
def check : Json → Checked Strategy := Schema.choice named

/-- A strategy as a JSON value. -/
def toJson (s : Strategy) : Json := .str s.name

end Strategy

/-- A request for a group. -/
structure Request where
  strategy : Strategy
  name : Option String
  resourceGroup : Option String

namespace Request

/-- Reads a request. -/
def check (origin : Schema.Origin) : Json → Checked Request :=
  Schema.record origin "CreatePlacementGroupRequest" fun ms =>
    Request.mk <$> Schema.required "strategy" Strategy.check ms <*>
      Schema.defaulted "name" none (Schema.nullable Schema.name) ms <*>
      Schema.optionalText "resource_group" ms

/-- A request as a JSON value. -/
def toJson (r : Request) : Json :=
  .obj [("strategy", r.strategy.toJson), ("name", .ofOption r.name),
    ("resource_group", .ofOption r.resourceGroup)]

end Request

/-- A request for another name. -/
structure Renaming where
  name : String

namespace Renaming

/-- Reads a renaming. -/
def check (origin : Schema.Origin) : Json → Checked Renaming :=
  Schema.record origin "UpdatePlacementGroupRequest" fun ms =>
    Renaming.mk <$> Schema.required "name" Schema.name ms

/-- A renaming as a JSON value; also the patch that is sent. -/
def toJson (r : Renaming) : Json := .obj [("name", .str r.name)]

end Renaming

end PlacementGroup

/-- A placement group. -/
structure PlacementGroup where
  id : String
  strategy : PlacementGroup.Strategy
  name : Option String
  resourceGroup : Option String
  createdAt : Option String
  crn : Option String
  href : Option String
  lifecycleState : Option String
  resourceType : Option String

namespace PlacementGroup

/-- The title under which a group is published. -/
def title : String := "PlacementGroup"

/-- Reads the fields of a group. -/
def fields (ms : Keyed Json) : Checked PlacementGroup :=
  PlacementGroup.mk <$> Schema.required "id" Schema.text ms <*>
    Schema.required "strategy" Strategy.check ms <*> Schema.optionalText "name" ms <*>
    Schema.optionalText "resource_group" ms <*> Schema.optionalText "created_at" ms <*>
    Schema.optionalText "crn" ms <*> Schema.optionalText "href" ms <*>
    Schema.optionalText "lifecycle_state" ms <*> Schema.optionalText "resource_type" ms

/-- Reads a group. -/
def check (origin : Schema.Origin) : Json → Checked PlacementGroup :=
  Schema.record origin title fields

/-- A group as a JSON value. -/
def toJson (g : PlacementGroup) : Json :=
  .obj [("id", .str g.id), ("strategy", g.strategy.toJson), ("name", .ofOption g.name),
    ("resource_group", .ofOption g.resourceGroup), ("created_at", .ofOption g.createdAt),
    ("crn", .ofOption g.crn), ("href", .ofOption g.href),
    ("lifecycle_state", .ofOption g.lifecycleState),
    ("resource_type", .ofOption g.resourceType)]

/-- Reads the group in an answer. -/
def ofAnswer (data : Json) : Read PlacementGroup := do
  let resourceGroup := (← shaped (data.find "resource_group")).orEmpty
  let id ← shaped (data.require "id")
  let strategy ← shaped (data.require "strategy")
  let name ← shaped (data.find "name")
  let resourceGroup ← shaped (resourceGroup.find "id")
  let createdAt ← shaped (data.find "created_at")
  let crn ← shaped (data.find "crn")
  let href ← shaped (data.find "href")
  let lifecycleState ← shaped (data.find "lifecycle_state")
  let resourceType ← shaped (data.find "resource_type")
  checked <| fields
    [("id", id), ("strategy", strategy), ("name", name), ("resource_group", resourceGroup),
      ("created_at", createdAt), ("crn", crn), ("href", href),
      ("lifecycle_state", lifecycleState), ("resource_type", resourceType)]

/-- Placement groups, with their number. -/
structure Listing where
  count : Int
  groups : List PlacementGroup

namespace Listing

/-- Reads a listing. -/
def check (origin : Schema.Origin) : Json → Checked Listing :=
  Schema.record origin "PlacementGroupListResponse" fun ms =>
    Listing.mk <$> Schema.required "count" Schema.integer ms <*>
      Schema.required "placement_groups" (Schema.list (PlacementGroup.check origin)) ms

/-- A listing as a JSON value. -/
def toJson (l : Listing) : Json :=
  .obj [("count", .int l.count), ("placement_groups", .arr (l.groups.map PlacementGroup.toJson))]

/-- The listing of some groups. -/
def ofGroups (groups : List PlacementGroup) : Listing := ⟨groups.length, groups⟩

end Listing

end PlacementGroup

end NetSteward
