/-!
# Managed resources

Three kinds of resource are managed. Each managed resource has a record
in the state table, under a key made of its kind and its identifier.
-/

namespace NetSteward

/-- The kinds of resource that are managed. -/
inductive ResourceKind
  | dnsConfig
  | binding
  | placementGroup
deriving DecidableEq

/-- The published name of a kind. -/
def ResourceKind.name : ResourceKind → String
  | dnsConfig => "dns_config"
  | binding => "dns_resolution_binding"
  | placementGroup => "placement_group"

/-- Kinds differ in their names. -/
theorem ResourceKind.name_injective {a b : ResourceKind} (h : a.name = b.name) : a = b := by
  revert h
  cases a <;> cases b <;> decide

/-- The key of a resource, from the name of its kind and its
identifier. -/
def recordKey (kind id : String) : String := kind ++ "/" ++ id

/-- The key of a resource. -/
def ResourceKind.key (kind : ResourceKind) (id : String) : String := recordKey kind.name id

/-- The identifier under which a binding of a VPC is recorded. -/
def bindingRecordId (vpcId bindingId : String) : String := vpcId ++ "/" ++ bindingId

end NetSteward
