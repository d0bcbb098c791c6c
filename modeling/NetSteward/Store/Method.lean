import NetSteward.Arguments
import NetSteward.Store.Repository
/-!
# Methods of the repository by name

Whoever works on the records directly names a method of the repository
and gives its arguments. These can be of any form, and the table service
gets to see them all: nothing is recorded under a key that is no text,
and nothing but an object is a record.
-/

namespace NetSteward

namespace Store

/-- The methods that can be named. -/
inductive Method
  | save
  | get
  | listAll
  | delete
deriving DecidableEq

namespace Method

/-- All methods. -/
def all : List Method := [save, get, listAll, delete]

/-- The name of a method. -/
def name : Method → String
  | save => "save"
  | get => "get"
  | listAll => "list_all"
  | delete => "delete"

/-- The method with a name. -/
def ofName? (n : String) : Option Method := all.find? fun m => m.name = n

/-- The parameters of a method. -/
def parameters : Method → List Parameter
  | save => [.needed "record"]
  | get => [.needed "key"]
  | listAll => [.optional "resource_type"]
  | delete => [.needed "key"]

/-- What comes of a key that is no text: it names no record, and a list
or an object cannot even be looked up. -/
def noRecord : Json → Except Mismatch Unit
  | .arr _ => .error .notAName
  | .obj _ => .error .notAName
  | _ => .ok ()

/-- Saves a record, which must be an object. -/
def saveAny : Json → Action Unit
  | .obj record => Store.save record
  | other => do
    connect
    access (.put other)
    attempt .putItem
    Action.ofShape (.error .notIndexed)

/-- The record under a key of any form. -/
def getAny : Json → Action Json
  | .str key => do
    match ← Store.get key with
    | some record => return .obj record
    | none => return .null
  | other => do
    connect
    access (.get other)
    attempt .getItem
    Action.ofShape (noRecord other)
    return .null

/-- Deletes the record under a key of any form and says whether there was
one. -/
def deleteAny : Json → Action Bool
  | .str key => Store.delete key
  | other => do
    connect
    access (.delete other)
    attempt .deleteItem
    Action.ofShape (noRecord other)
    return false

/-- Runs a method, given the values of its parameters. -/
def run (value : String → Json) : Method → Action Json
  | save => do
    saveAny (value "record")
    return .null
  | get => getAny (value "key")
  | listAll => do
    let records ← Store.listAll (value "resource_type")
    return .arr (records.map Json.obj)
  | delete => do
    return .bool (← deleteAny (value "key"))

/-- The name of the table that is kept. No arguments fit it. -/
def tableName : String := "_table"

/-- **Runs the method with a name**, if there is one and the arguments
fit it. -/
def invoke (name : String) (arguments : Arguments) : Action Json :=
  match ofName? name with
  | some m => do
    let values ← Action.ofShape (arguments.bind m.parameters)
    m.run fun p => (Keyed.get? values p).getD .null
  | none => Action.ofShape (.error (if name = tableName then .unfitArguments else .noMembers))

end Method

end Store

end NetSteward
