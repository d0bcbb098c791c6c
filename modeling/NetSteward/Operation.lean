import NetSteward.Binding.Lifecycle
import NetSteward.Dns.Lifecycle
import NetSteward.Placement.Lifecycle
import NetSteward.Route.Lookup
/-!
# Operations

All that callers can ask for, as data: an operation is run in a world
and answers with a JSON value. Its identifiers are values of any form,
which are passed on as they are. Statements about every operation, or
about histories of operations, are made over this type.
-/

namespace NetSteward

/-- The operations. -/
inductive Operation
  | createDns (desired : Dns.Desired)
  | updateDns (vpcId : Json) (changes : Dns.Changes)
  | readDns (vpcId : Json)
  | importDns (vpcId : Json)
  | deleteDns (vpcId : Json)
  | listDns
  | createBinding (vpcId : Json) (request : Binding.Request)
  | renameBinding (vpcId bindingId : Json) (request : Binding.Renaming)
  | readBinding (vpcId bindingId : Json)
  | deleteBinding (vpcId bindingId : Json)
  | fetchBinding (vpcId bindingId : Json)
  | listBindings (vpcId : Json)
  | createGroup (request : PlacementGroup.Request)
  | renameGroup (groupId : Json) (request : PlacementGroup.Renaming)
  | readGroup (groupId : Json)
  | deleteGroup (groupId : Json)
  | fetchGroup (groupId : Json)
  | listGroups
  | listRoutes (vpcId tableId : Json)

namespace Operation

variable {α : Type}

/-- The answer with one value. -/
def one (toJson : α → Json) (x : Action α) : Action Json := toJson <$> x

/-- The answer with a list of values. -/
def many (toJson : α → Json) (x : Action (List α)) : Action Json :=
  (fun as => .arr (as.map toJson)) <$> x

/-- The answer of an operation that yields nothing. -/
def nothing (x : Action Unit) : Action Json := (fun _ => .null) <$> x

/-- Runs an operation. -/
def run : Operation → Action Json
  | createDns d => one Dns.State.toJson (Dns.create d)
  | updateDns vpcId c => one Dns.State.toJson (Dns.update vpcId c)
  | readDns vpcId => one Dns.State.toJson (Dns.read vpcId)
  | importDns vpcId => one Dns.State.toJson (Dns.adopt vpcId)
  | deleteDns vpcId => one Json.bool (Dns.delete vpcId)
  | listDns => many Dns.State.toJson Dns.list
  | createBinding vpcId r => one Binding.toJson (Binding.create vpcId r)
  | renameBinding vpcId id r => one Binding.toJson (Binding.rename vpcId id r)
  | readBinding vpcId id => one Binding.toJson (Binding.read vpcId id)
  | deleteBinding vpcId id => nothing (Binding.delete vpcId id)
  | fetchBinding vpcId id => one Binding.toJson (Binding.fetch vpcId id)
  | listBindings vpcId => many Binding.toJson (Binding.list vpcId)
  | createGroup r => one PlacementGroup.toJson (PlacementGroup.create r)
  | renameGroup id r => one PlacementGroup.toJson (PlacementGroup.rename id r)
  | readGroup id => one PlacementGroup.toJson (PlacementGroup.read id)
  | deleteGroup id => nothing (PlacementGroup.delete id)
  | fetchGroup id => one PlacementGroup.toJson (PlacementGroup.fetch id)
  | listGroups => many PlacementGroup.toJson PlacementGroup.list
  | listRoutes vpcId tableId => many Route.toJson (Route.list vpcId tableId)

end Operation

end NetSteward
