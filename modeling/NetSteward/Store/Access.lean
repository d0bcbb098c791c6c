import NetSteward.Settings
import NetSteward.Store.Fault
/-!
# The state table and how it is accessed

The state table holds records under their keys, in the order in which
they came. It is reached through one connection, which is opened at the
first access and kept. Each access is an event.
-/

namespace NetSteward

/-- The state table, as it is reached through one connection. -/
structure Store where
  /-- Whether the table has been created. -/
  created : Bool
  /-- Whether the connection is open. -/
  connected : Bool
  /-- The records under their keys. -/
  records : Keyed (Keyed Json)
  /-- The number of records that are looked at in one scan. -/
  scanSize : Nat
  /-- The errors to come. -/
  faults : List Store.Fault
  /-- The uses of operations that the faults count. -/
  uses : List Store.Operation

namespace Store

/-- The attribute that holds the key of a record. -/
def keyAttribute : String := "resource_key"

/-- The attribute that holds the kind of the resource of a record. -/
def kindAttribute : String := "resource_type"

/-- The attribute that holds the realized attributes of the resource. -/
def attributesAttribute : String := "attributes"

/-- The answer to the next use of an operation, and the store after
it. -/
def use (s : Store) (operation : Operation) : Option TableError × Store :=
  let count := s.uses.count operation + 1
  ((s.faults.find? fun f => f.hits operation count).map Fault.error,
    { s with uses := operation :: s.uses })

/-- One access to the state table. Records, keys and kinds are passed on
as they are given. -/
inductive Access
  /-- A session with the table service, in a region, with credentials and
  an address of the service where these are set. -/
  | session (options : Keyed Json)
  /-- The creation of the table. -/
  | createTable (name : Json)
  /-- Waiting for the table that was created. -/
  | awaitTable
  /-- The opening of a table that exists. -/
  | openTable (name : Json)
  | put (record : Json)
  | get (key : Json)
  /-- A scan, for one kind of record or, if it is null, for all, and
  perhaps from behind a key on. -/
  | scan (kind : Json) (after : Option String)
  | delete (key : Json)

/-- The key of a record as the table service takes it. -/
def keyJson (key : Json) : Json := .obj [(keyAttribute, key)]

namespace Access

/-- The options of a session. -/
def sessionOptions (s : Settings) : Keyed Json :=
  ("region_name", s.region) ::
    (if s.accessKeyId.isGiven then
      [("aws_access_key_id", s.accessKeyId), ("aws_secret_access_key", s.secretAccessKey)]
    else []) ++
    (if s.endpointUrl.isGiven then [("endpoint_url", s.endpointUrl)] else [])

/-- The description of the table: its key is one text, and it is paid for
by use. -/
def tableOptions (name : Json) : Keyed Json :=
  [("TableName", name),
    ("KeySchema", .arr [.obj [("AttributeName", .str keyAttribute), ("KeyType", .str "HASH")]]),
    ("AttributeDefinitions",
      .arr [.obj [("AttributeName", .str keyAttribute), ("AttributeType", .str "S")]]),
    ("BillingMode", .str "PAY_PER_REQUEST")]

/-- The options of a scan. -/
def scanOptions (kind : Json) (after : Option String) : Keyed Json :=
  (if kind.isNull then []
    else [("FilterExpression", .arr [.str kindAttribute, .str "=", kind])]) ++
  (match after with
    | none => []
    | some key => [("ExclusiveStartKey", keyJson (.str key))])

/-- The name of an access. -/
def name : Access → String
  | session _ => "dynamodb.resource"
  | createTable _ => "dynamodb.create_table"
  | awaitTable => "dynamodb.wait_until_exists"
  | openTable _ => "dynamodb.Table"
  | put _ => "dynamodb.put_item"
  | get _ => "dynamodb.get_item"
  | scan _ _ => "dynamodb.scan"
  | delete _ => "dynamodb.delete_item"

/-- The arguments of an access. -/
def arguments : Access → List Json
  | session _ => [.str "dynamodb"]
  | openTable name => [name]
  | _ => []

/-- The options of an access. -/
def options : Access → Keyed Json
  | session options => options
  | createTable name => tableOptions name
  | awaitTable => []
  | openTable _ => []
  | put record => [("Item", record)]
  | get key => [("Key", keyJson key)]
  | scan kind after => scanOptions kind after
  | delete key => [("Key", keyJson key), ("ReturnValues", .str "ALL_OLD")]

end Access

end Store

end NetSteward
