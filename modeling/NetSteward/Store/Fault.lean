import NetSteward.Json.Value
/-!
# Errors of the state table

Each operation on the state table can be answered with an error. Which
ones will be is part of the world: a fault names an operation, which of
its uses is hit, and the error.
-/

namespace NetSteward

namespace Store

/-- The operations of the table service. -/
inductive Operation
  | createTable
  | describeTable
  | putItem
  | getItem
  | scan
  | deleteItem
deriving DecidableEq

/-- The published name of an operation. -/
def Operation.name : Operation → String
  | createTable => "CreateTable"
  | describeTable => "DescribeTable"
  | putItem => "PutItem"
  | getItem => "GetItem"
  | scan => "Scan"
  | deleteItem => "DeleteItem"

/-- An error that an operation was answered with. -/
structure TableError where
  operation : Operation
  code : String
  message : String
deriving DecidableEq

/-- The text of an error. -/
def TableError.text (e : TableError) : String :=
  "An error occurred (" ++ e.code ++ ") when calling the " ++ e.operation.name ++
    " operation: " ++ e.message

/-- An error to come: it hits one use of an operation, counted from one,
or every use. -/
structure Fault where
  operation : Operation
  nth : Option Int
  code : String
  message : String
deriving DecidableEq

/-- Whether a fault hits a use of an operation. -/
def Fault.hits (f : Fault) (operation : Operation) (count : Nat) : Bool :=
  f.operation = operation && match f.nth with
    | none => true
    | some n => n = count

/-- The error of a fault. -/
def Fault.error (f : Fault) : TableError := ⟨f.operation, f.code, f.message⟩

end Store

end NetSteward
