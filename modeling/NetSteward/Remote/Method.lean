import NetSteward.Arguments
import NetSteward.Json.Display
import NetSteward.Remote.Exchange
import NetSteward.Remote.Link
/-!
# Methods of the service by name

Whoever talks to the service directly names a method and gives its
arguments. No call is made unless the arguments fit; what they are is
for the service to judge. The link itself can be set up by name as well.
-/

namespace NetSteward

namespace Remote

/-- The methods that can be named. -/
inductive Method
  | getVpc
  | patchVpc
  | createBinding
  | getBinding
  | patchBinding
  | deleteBinding
  | listBindings
  | createGroup
  | getGroup
  | patchGroup
  | deleteGroup
  | listGroups
  | listRoutes
deriving DecidableEq

namespace Method

/-- All methods. -/
def all : List Method :=
  [getVpc, patchVpc, createBinding, getBinding, patchBinding, deleteBinding, listBindings,
    createGroup, getGroup, patchGroup, deleteGroup, listGroups, listRoutes]

/-- The name of a method. -/
def name : Method → String
  | getVpc => "get_vpc"
  | patchVpc => "update_vpc"
  | createBinding => "create_dns_resolution_binding"
  | getBinding => "get_dns_resolution_binding"
  | patchBinding => "update_dns_resolution_binding"
  | deleteBinding => "delete_dns_resolution_binding"
  | listBindings => "list_dns_resolution_bindings"
  | createGroup => "create_placement_group"
  | getGroup => "get_placement_group"
  | patchGroup => "update_placement_group"
  | deleteGroup => "delete_placement_group"
  | listGroups => "list_placement_groups"
  | listRoutes => "list_routing_table_routes"

/-- The method with a name. -/
def ofName? (n : String) : Option Method := all.find? fun m => m.name = n

/-- The parameters of a method. A patch of a VPC can be given another
purpose than its own. -/
def parameters : Method → List Parameter
  | getVpc => [.needed "vpc_id"]
  | patchVpc =>
    [.needed "vpc_id", .needed "vpc_patch",
      ⟨"description", some (.str Call.patchVpcPurpose)⟩]
  | createBinding => [.needed "vpc_id", .needed "vpc", .optional "name"]
  | getBinding => [.needed "vpc_id", .needed "binding_id"]
  | patchBinding => [.needed "vpc_id", .needed "binding_id", .needed "patch"]
  | deleteBinding => [.needed "vpc_id", .needed "binding_id"]
  | listBindings => [.needed "vpc_id"]
  | createGroup => [.needed "strategy", .optional "name", .optional "resource_group_id"]
  | getGroup => [.needed "placement_group_id"]
  | patchGroup => [.needed "placement_group_id", .needed "patch"]
  | deleteGroup => [.needed "placement_group_id"]
  | listGroups => []
  | listRoutes => [.needed "vpc_id", .needed "routing_table_id"]

/-- Makes the calls of a method, given the values of its parameters. -/
def run (value : String → Json) : Method → Action Json
  | getVpc => send (.getVpc (value "vpc_id"))
  | patchVpc =>
    sendFor (value "description").plain (.patchVpc (value "vpc_id") (value "vpc_patch"))
  | createBinding => send (.createBinding (value "vpc_id") (value "vpc") (value "name"))
  | getBinding => send (.getBinding (value "vpc_id") (value "binding_id"))
  | patchBinding =>
    send (.patchBinding (value "vpc_id") (value "binding_id") (value "patch"))
  | deleteBinding =>
    (fun _ => .null) <$> send (.deleteBinding (value "vpc_id") (value "binding_id"))
  | listBindings => .arr <$> listAll (.bindings (value "vpc_id"))
  | createGroup =>
    send (.createGroup (value "strategy") (value "name") (value "resource_group_id"))
  | getGroup => send (.getGroup (value "placement_group_id"))
  | patchGroup => send (.patchGroup (value "placement_group_id") (value "patch"))
  | deleteGroup => (fun _ => .null) <$> send (.deleteGroup (value "placement_group_id"))
  | listGroups => .arr <$> listAll .groups
  | listRoutes => .arr <$> listAll (.routes (value "vpc_id") (value "routing_table_id"))

/-- The name under which the link is set up. -/
def setUpName : String := "from_settings"

/-- Names of the inner working of the link. No arguments fit them. -/
def innerNames : List String := ["_call", "_list_all", "_page_limit", "_service"]

/-- Sets up the link from the settings of the world. Other settings can
be named, but no argument can hold them. -/
def setUp (arguments : Arguments) : Action Json := do
  let _ ← Action.ofShape (arguments.bind [.optional "cfg"])
  let w ← Action.world
  if arguments.placed.isEmpty && arguments.named.isEmpty then
    match ← Action.ofShape (Link.ofSettings w.settings) with
    | .ok link => return link.toJson
    | .error fault => Action.fail (.unlinked fault)
  else Action.ofShape (.error .noMembers)

/-- **Runs the method with a name**, if there is one and the arguments
fit it. -/
def invoke (name : String) (arguments : Arguments) : Action Json :=
  match ofName? name with
  | some m => do
    let values ← Action.ofShape (arguments.bind m.parameters)
    m.run fun p => (Keyed.get? values p).getD .null
  | none =>
    if name = setUpName then setUp arguments
    else if innerNames.contains name then Action.ofShape (.error .unfitArguments)
    else Action.ofShape (.error .noMembers)

end Method

end Remote

end NetSteward
