import NetSteward.Text.Blank
/-!
# Endpoints

An endpoint is what a method and a path name together. A path names the
endpoints of its methods; a path that names none, or none for the method
of a request, is answered without running anything.
-/

namespace NetSteward

namespace Web

/-- The endpoints. -/
inductive Endpoint
  | issueToken
  | health
  | createDns
  | listDns
  | readDns (vpcId : String)
  | updateDns (vpcId : String)
  | importDns (vpcId : String)
  | deleteDns (vpcId : String)
  | createBinding (vpcId : String)
  | listBindings (vpcId : String)
  | readBinding (vpcId bindingId : String)
  | lookUpBinding (vpcId bindingId : String)
  | renameBinding (vpcId bindingId : String)
  | deleteBinding (vpcId bindingId : String)
  | createGroup
  | listGroups
  | readGroup (groupId : String)
  | lookUpGroup (groupId : String)
  | renameGroup (groupId : String)
  | deleteGroup (groupId : String)
  | listRoutes (vpcId tableId : String)
deriving DecidableEq

namespace Endpoint

/-- The endpoints of the segments of a path, with their methods. -/
def ofSegments : List String → List (String × Endpoint)
  | ["auth", "token"] => [("POST", issueToken)]
  | ["health"] => [("GET", health)]
  | ["dns-configs"] => [("POST", createDns), ("GET", listDns)]
  | ["dns-configs", vpcId] =>
    [("GET", readDns vpcId), ("PUT", updateDns vpcId), ("DELETE", deleteDns vpcId)]
  | ["dns-configs", vpcId, "import"] => [("POST", importDns vpcId)]
  | ["vpcs", vpcId, "dns-resolution-bindings"] =>
    [("POST", createBinding vpcId), ("GET", listBindings vpcId)]
  | ["vpcs", vpcId, "dns-resolution-bindings", bindingId] =>
    [("GET", readBinding vpcId bindingId), ("PATCH", renameBinding vpcId bindingId),
      ("DELETE", deleteBinding vpcId bindingId)]
  | ["vpcs", vpcId, "dns-resolution-bindings", bindingId, "lookup"] =>
    [("GET", lookUpBinding vpcId bindingId)]
  | ["vpcs", vpcId, "routing-tables", tableId, "routes"] => [("GET", listRoutes vpcId tableId)]
  | ["placement-groups"] => [("POST", createGroup), ("GET", listGroups)]
  | ["placement-groups", groupId] =>
    [("GET", readGroup groupId), ("PATCH", renameGroup groupId),
      ("DELETE", deleteGroup groupId)]
  | ["placement-groups", groupId, "lookup"] => [("GET", lookUpGroup groupId)]
  | _ => []

/-- A text without a line end at its end. -/
def withoutLineEnd (s : String) : String :=
  match s.toList.reverse with
  | '\n' :: rest => String.ofList rest.reverse
  | _ => s

/-- The endpoints of a path, with their methods. No segment may be empty;
a line end after a fixed last segment is passed over. -/
def ofPath (segments : List String) : List (String × Endpoint) :=
  if segments.contains "" then []
  else match ofSegments segments with
    | [] => match segments.getLast? with
      | some last => ofSegments (segments.dropLast ++ [withoutLineEnd last])
      | none => []
    | endpoints => endpoints

/-- Whether an endpoint is one of a resource, which callers need a token
for. -/
def isGuarded : Endpoint → Bool
  | issueToken => false
  | health => false
  | _ => true

/-- Whether an endpoint makes calls to the service. -/
def usesLink : Endpoint → Bool
  | issueToken => false
  | health => false
  | listDns => false
  | _ => true

/-- What an endpoint takes as a body. -/
inductive Intake
  | nothing
  | record
  | form
deriving DecidableEq

/-- What an endpoint takes as a body. -/
def intake : Endpoint → Intake
  | issueToken => .form
  | createDns => .record
  | updateDns _ => .record
  | createBinding _ => .record
  | renameBinding _ _ => .record
  | createGroup => .record
  | renameGroup _ => .record
  | _ => .nothing

end Endpoint

end Web

end NetSteward
