import NetSteward.Json.Value
/-!
# Calls to the VPC service

Everything that is asked of the service is one of these calls. A call
has a method, arguments and options, and a purpose, which is what a
refusal is reported under.
-/

namespace NetSteward

namespace Remote

/-- The collections that the service lists page by page. -/
inductive Collection
  | bindings (vpcId : Json)
  | groups
  | routes (vpcId tableId : Json)

namespace Collection

/-- The member of a page that holds the items. -/
def itemsMember : Collection → String
  | bindings _ => "dns_resolution_bindings"
  | groups => "placement_groups"
  | routes _ _ => "routes"

/-- The method that lists a collection. -/
def method : Collection → String
  | bindings _ => "list_vpc_dns_resolution_bindings"
  | groups => "list_placement_groups"
  | routes _ _ => "list_vpc_routing_table_routes"

/-- The identifiers that name a collection. -/
def arguments : Collection → List Json
  | bindings vpcId => [vpcId]
  | groups => []
  | routes vpcId tableId => [vpcId, tableId]

/-- What a refusal to list a collection is reported under. -/
def purpose : Collection → String
  | bindings _ => "Error listing DNS resolution bindings"
  | groups => "Error listing placement groups"
  | routes _ _ => "Error reading list of VPC routing table routes"

end Collection

/-- A call to the service. Its arguments are passed on as they are: the
identifier of a binding, say, is a value as the service gave it, which
need not be a text. -/
inductive Call
  | getVpc (vpcId : Json)
  | patchVpc (vpcId patch : Json)
  | createBinding (vpcId hub name : Json)
  | getBinding (vpcId bindingId : Json)
  | patchBinding (vpcId bindingId patch : Json)
  | deleteBinding (vpcId bindingId : Json)
  | createGroup (strategy name resourceGroup : Json)
  | getGroup (groupId : Json)
  | patchGroup (groupId patch : Json)
  | deleteGroup (groupId : Json)
  /-- One page of a collection, from a token on, with at most so many
  items. -/
  | list (collection : Collection) (start : Option String) (limit : Json)

namespace Call

/-- The method of a call. -/
def method : Call → String
  | getVpc _ => "get_vpc"
  | patchVpc _ _ => "update_vpc"
  | createBinding _ _ _ => "create_vpc_dns_resolution_binding"
  | getBinding _ _ => "get_vpc_dns_resolution_binding"
  | patchBinding _ _ _ => "update_vpc_dns_resolution_binding"
  | deleteBinding _ _ => "delete_vpc_dns_resolution_binding"
  | createGroup _ _ _ => "create_placement_group"
  | getGroup _ => "get_placement_group"
  | patchGroup _ _ => "update_placement_group"
  | deleteGroup _ => "delete_placement_group"
  | list c _ _ => c.method

/-- The arguments of a call. -/
def arguments : Call → List Json
  | getVpc vpcId => [vpcId]
  | patchVpc vpcId patch => [vpcId, patch]
  | createBinding vpcId hub _ => [vpcId, hub]
  | getBinding vpcId bindingId => [vpcId, bindingId]
  | patchBinding vpcId bindingId patch => [vpcId, bindingId, patch]
  | deleteBinding vpcId bindingId => [vpcId, bindingId]
  | createGroup strategy _ _ => [strategy]
  | getGroup groupId => [groupId]
  | patchGroup groupId patch => [groupId, patch]
  | deleteGroup groupId => [groupId]
  | list c _ _ => c.arguments

/-- An option that is sent, in some form, only if its value is given. -/
def givenOption (name : String) (value form : Json) : Keyed Json :=
  if value.isGiven then [(name, form)] else []

/-- The options of a call. -/
def options : Call → Keyed Json
  | createBinding _ _ name => givenOption "name" name name
  | createGroup _ name resourceGroup =>
    givenOption "name" name name ++
      givenOption "resource_group" resourceGroup (.obj [("id", resourceGroup)])
  | list _ start limit => [("start", .ofOption start), ("limit", limit)]
  | _ => []

/-- What a refused patch of a VPC is reported under. -/
def patchVpcPurpose : String := "Error updating VPC"

/-- What a refusal of a call is reported under, where its sender does
not say otherwise. -/
def purpose : Call → String
  | getVpc _ => "Error getting VPC"
  | patchVpc _ _ => patchVpcPurpose
  | createBinding _ _ _ => "Error creating DNS resolution binding"
  | getBinding _ _ => "Error getting DNS resolution binding"
  | patchBinding _ _ _ => "Error updating DNS resolution binding"
  | deleteBinding _ _ => "Error deleting DNS resolution binding"
  | createGroup _ _ _ => "Error creating placement group"
  | getGroup _ => "Error getting placement group"
  | patchGroup _ _ => "Error updating placement group"
  | deleteGroup _ => "Error deleting placement group"
  | list c _ _ => c.purpose

end Call

/-! ## Replies -/

/-- How the service refuses a call: with a message and, if it got that
far, a status, which is null otherwise. -/
structure Refusal where
  status : Json
  message : String

/-- Whether a refusal says that there is no such resource. -/
def Refusal.isNotFound (r : Refusal) : Bool := r.status.same (.int 404)

/-- What comes back for a call: a body, a refusal, or nothing because the
connection failed. -/
inductive Reply
  | ok (body : Json)
  | refused (refusal : Refusal)
  | disconnected (reason : String)

end Remote

end NetSteward
