import NetSteward.Action
/-!
# The repository of records

The repository saves, gets, lists and deletes records. Every access goes
through the one connection to the table, which the first access opens:
it creates the table, or opens the one that is there. A connection that
could not be opened is tried again by the next access.
-/

namespace NetSteward

namespace Store

/-- Does one access. -/
def access (a : Access) : Action Unit := fun w => ⟨.ok (), [.access a], w⟩

/-- Uses an operation, which may be answered with an error. -/
def attempt (operation : Operation) : Action Unit := fun w =>
  let (answer, store) := w.store.use operation
  ⟨match answer with
    | none => .ok ()
    | some e => .error (.store e), [], { w with store := store }⟩

/-- Changes the store. -/
def modify (f : Store → Store) : Action Unit := fun w =>
  ⟨.ok (), [], { w with store := f w.store }⟩

@[simp] theorem access_apply (a : Access) (w : World) :
    access a w = ⟨.ok (), [.access a], w⟩ := rfl

@[simp] theorem modify_apply (f : Store → Store) (w : World) :
    modify f w = ⟨.ok (), [], { w with store := f w.store }⟩ := rfl

/-! ## The connection -/

/-- The code of the error about a table that is there already. -/
def inUseCode : String := "ResourceInUseException"

/-- Creates the table, which must not be there, and waits for it. -/
def createTable (name : Json) : Action Unit := do
  access (.createTable name)
  attempt .createTable
  let w ← Action.world
  if w.store.created then
    Action.fail (.store ⟨.createTable, inUseCode, "Table already exists"⟩)
  else
    modify fun s => { s with created := true }
    access .awaitTable
    attempt .describeTable

/-- Opens a connection, and the table if it is there already. -/
def openConnection : Action Unit := do
  let w ← Action.world
  access (.session (Access.sessionOptions w.settings))
  let name := w.settings.tableName
  (createTable name).recover fun
    | .store e => if e.code = inUseCode then some (access (.openTable name)) else none
    | _ => none
  modify fun s => { s with connected := true }

/-- Makes sure that the connection is open. -/
def connect : Action Unit := do
  let w ← Action.world
  if w.store.connected then pure () else openConnection

/-- **An open connection is kept.** -/
theorem connect_of_connected {w : World} (h : w.store.connected = true) :
    connect w = ⟨.ok (), [], w⟩ := by
  rw [connect, Action.bind_of_ok (rfl : Action.world w = ⟨.ok w, [], w⟩), if_pos h]
  rfl

/-! ## Records -/

/-- The key of a record. -/
def recordKeyOf (record : Keyed Json) : Except Mismatch String :=
  match Keyed.get? record keyAttribute with
  | some (.str key) => .ok key
  | some _ => .error .notAName
  | none => .error (.missing keyAttribute)

/-- Saves a record under its key, in place of one that is there. -/
def save (record : Keyed Json) : Action Unit := do
  connect
  access (.put (.obj record))
  attempt .putItem
  let key ← Action.ofShape (recordKeyOf record)
  modify fun s => { s with records := s.records.insert key record }

/-- The record under a key, if there is one. -/
def get (key : String) : Action (Option (Keyed Json)) := do
  connect
  access (.get (.str key))
  attempt .getItem
  let w ← Action.world
  return w.store.records.get? key

/-- Deletes the record under a key and says whether there was one. -/
def delete (key : String) : Action Bool := do
  connect
  access (.delete (.str key))
  attempt .deleteItem
  let w ← Action.world
  modify fun s => { s with records := s.records.erase key }
  return (w.store.records.get? key).isSome

/-! ## Scans -/

/-- What one scan yields: the records that it found, and the key of the
last record that it looked at if there are more. -/
structure Page where
  found : List (Keyed Json)
  last : Option String

/-- The records behind a key, all of them if no key is given. -/
def recordsAfter (records : Keyed (Keyed Json)) : Option String → Keyed (Keyed Json)
  | none => records
  | some key => (records.dropWhile fun e => e.1 != key).drop 1

/-- Whether a record is of a kind, if one is asked for. -/
def isOfKind (kind : Json) (record : Keyed Json) : Bool :=
  kind.isNull || match Keyed.get? record kindAttribute with
    | some j => j.same kind
    | none => false

/-- The page that a scan yields: it looks at so many records and then
leaves out those of another kind. -/
def pageOf (size : Nat) (kind : Json) (records : Keyed (Keyed Json)) : Page where
  found := ((records.take size).map (·.2)).filter (isOfKind kind)
  last := if records.length ≤ size then none else (records.take size).getLast?.map (·.1)

/-- Scans from behind a key on. -/
def scan (kind : Json) (after : Option String) : Action Page := do
  access (.scan kind after)
  attempt .scan
  let w ← Action.world
  return pageOf (max 1 w.store.scanSize) kind (recordsAfter w.store.records after)

/-- Scans until no records are left. The first argument bounds the
number of scans; each looks at a record at least. -/
def scanAll (kind : Json) : Nat → Option String → Action (List (Keyed Json))
  | 0, _ => return []
  | bound + 1, after => do
    let page ← scan kind after
    match page.last with
    | none => return page.found
    | some key => do
      let more ← scanAll kind bound (some key)
      return page.found ++ more

/-- The records, only those of one kind if a kind is given. -/
def listAll (kind : Json) : Action (List (Keyed Json)) := do
  connect
  let w ← Action.world
  scanAll (if kind.isGiven then kind else .null) (w.store.records.length + 1) none

end Store

end NetSteward
