import NetSteward.Store.Repository
/-!
# What is remembered of resources

For each managed resource the store holds a record of the attributes
that were realized last. `remember` writes it, `retrieve` reads it back
through the checks of the resource, `forget` removes it. An identifier of
any form is recorded as it is; its plain form is in the key.
-/

namespace NetSteward

namespace Memory

variable {α : Type}

/-- The record of a resource, written at an instant. -/
def record (kind : ResourceKind) (id attributes : Json) (written : Time.Instant) : Keyed Json :=
  [(Store.keyAttribute, .str (kind.key id.plain)), (Store.kindAttribute, .str kind.name),
    ("resource_id", id), (Store.attributesAttribute, attributes),
    ("updated_at", .str written.isoText)]

/-- Writes the record of a resource. Both the attributes and the clock are
looked at before the store is. -/
def remember (kind : ResourceKind) (id attributes : Json) : Action Unit := do
  let attributes ← Action.ofShape (attributes.writable 1)
  let w ← Action.world
  let now ← Action.ofShape w.clock.read
  Store.save (record kind id attributes now)

/-- Removes the record of a resource and says whether there was one. -/
def forget (kind : ResourceKind) (id : Json) : Action Bool := Store.delete (kind.key id.plain)

/-- The resource of a record, if its attributes pass the checks. -/
def ofRecord (check : Json → Checked α) (record : Keyed Json) : Read α := do
  let attributes ← shaped ((Json.obj record).require Store.attributesAttribute)
  checked (check attributes)

/-- The resource as it was remembered last, if it is managed. -/
def retrieve (kind : ResourceKind) (id : Json) (check : Json → Checked α) :
    Action (Option α) := do
  match ← Store.get (kind.key id.plain) with
  | none => return none
  | some record => some <$> Action.ofRead (ofRecord check record)

/-- All resources of a list of records. -/
def ofRecords (check : Json → Checked α) : List (Keyed Json) → Read (List α)
  | [] => .ok []
  | r :: rest => do
    let a ← ofRecord check r
    let more ← ofRecords check rest
    return a :: more

/-- All managed resources of a kind. -/
def retrieveAll (kind : ResourceKind) (check : Json → Checked α) : Action (List α) := do
  let records ← Store.listAll (.str kind.name)
  Action.ofRead (ofRecords check records)

/-- The failure about a resource that is not managed or no longer
exists. -/
def gone (kind : ResourceKind) (id : Json) : Action α := Action.fail (.gone kind id)

/-- The resource as it was remembered last, which must be managed. -/
def retrieveManaged (kind : ResourceKind) (id : Json) (check : Json → Checked α) :
    Action α := do
  match ← retrieve kind id check with
  | none => gone kind id
  | some a => return a

/-- Removes the record of a resource that no longer exists, and says
so. -/
def dropGone (kind : ResourceKind) (id : Json) : Action α := do
  let _ ← forget kind id
  gone kind id

end Memory

end NetSteward
