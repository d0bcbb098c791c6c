import NetSteward.Proofs.Store.Refinement
/-!
# One connection

The repository opens its connection to the table at the first request and
keeps it. Whether an attempt to open it succeeds is up to the table
service, which answers the creation of the table and then the wait for it.
Of an error only the code is looked at: the one that says that the table is
there leads on to the table, and an error of any other kind ends the
request. The main result is about all sequences of requests: those before
the first success fail in their attempt and leave nothing behind, and those
after it make no attempt.
-/

namespace NetSteward

namespace Store

/-! ## How an attempt goes -/

/-- The error that the creation of the table is answered with: one to come
or, if the table is there, the one that says so. There is none if the table
is created. -/
def creationError (s : Store) : Option TableError :=
  (s.use .createTable).1.or
    (if s.created then some ⟨.createTable, inUseCode, "Table already exists"⟩ else none)

/-- The error that the wait for the table ends with, once the table is
created. -/
def waitError (s : Store) : Option TableError := (s.use .describeTable).1

/-- How every attempt begins: with a session, in which the table is to be
created. -/
def begun (w : World) : List Access :=
  [.session (Access.sessionOptions w.settings), .createTable w.settings.tableName]

/-- **One attempt to open the connection**: the error that it fails with,
none if it succeeds, and the accesses that it is made of. -/
inductive Handshake (w : World) : Option TableError → List Access → Prop
  /-- The table is created, and waited for. -/
  | created (hcreation : w.store.creationError = none) (hwait : w.store.waitError = none) :
      Handshake w none (begun w ++ [.awaitTable])
  /-- The table is there, and opened. -/
  | present {e : TableError} (hcreation : w.store.creationError = some e)
      (he : e.code = inUseCode) : Handshake w none (begun w ++ [.openTable w.settings.tableName])
  /-- The table is said to be there only when it is waited for. -/
  | overtaken {e : TableError} (hcreation : w.store.creationError = none)
      (hwait : w.store.waitError = some e) (he : e.code = inUseCode) :
      Handshake w none (begun w ++ [.awaitTable, .openTable w.settings.tableName])
  /-- The table is not created, for another reason. -/
  | refused {e : TableError} (hcreation : w.store.creationError = some e)
      (he : e.code ≠ inUseCode) : Handshake w (some e) (begun w)
  /-- The wait for the table fails, for another reason. -/
  | unawaited {e : TableError} (hcreation : w.store.creationError = none)
      (hwait : w.store.waitError = some e) (he : e.code ≠ inUseCode) :
      Handshake w (some e) (begun w ++ [.awaitTable])

/-- What comes of an action that is answered with an error, or with
none. -/
def resultOf : Option TableError → Except Failure Unit
  | none => .ok ()
  | some e => .error (.store e)

/-- The records and the connection are as they were. -/
structure Spares (w v : World) : Prop where
  records_eq : v.store.records = w.store.records
  connected_eq : v.store.connected = w.store.connected

variable {w v : World} {events : List Event} {e : TableError}

/-- An operation is answered as the faults to come say, and counted. -/
theorem attempt_apply (operation : Operation) (w : World) :
    ∃ v, attempt operation w = ⟨resultOf (w.store.use operation).1, [], v⟩ ∧
      v = { w with store := { w.store with uses := operation :: w.store.uses } } := by
  refine ⟨_, ?_, rfl⟩
  simp only [attempt]
  cases (w.store.use operation).1 <;> rfl

/-! ### The creation of the table -/

/-- An error of the creation is passed on. -/
theorem createTable_of_creationError (name : Json) (h : w.store.creationError = some e) :
    ∃ v, createTable name w = ⟨.error (.store e), [.access (.createTable name)], v⟩ ∧
      Spares w v := by
  obtain ⟨v, hv, hw⟩ := attempt_apply .createTable w
  have hspared : Spares w v := by
    rw [hw]
    exact ⟨rfl, rfl⟩
  refine ⟨v, ?_, hspared⟩
  rw [createTable, Action.bind_of_ok (access_apply _ w)]
  -- Either the creation is hit by a fault, or it finds the table there.
  rcases Option.or_eq_some_iff.1 h with hhit | ⟨hclear, hthere⟩
  · rw [hhit] at hv
    rw [Action.bind_of_error hv]
    rfl
  · have hcreated : w.store.created = v.store.created := by rw [hw]
    rw [hclear] at hv
    rw [hcreated] at hthere
    rw [Action.bind_of_ok hv, Action.bind_of_ok (rfl : Action.world v = ⟨.ok v, [], v⟩)]
    split at hthere
    next hv' =>
      cases hthere
      rw [if_pos hv']
      rfl
    next => cases hthere

/-- A table that is created is waited for, and the wait decides. -/
theorem createTable_of_created (name : Json) (h : w.store.creationError = none) :
    ∃ v, createTable name w = ⟨resultOf w.store.waitError,
      [.access (.createTable name), .access .awaitTable], v⟩ ∧ Spares w v := by
  obtain ⟨hclear, habsent⟩ := Option.or_eq_none_iff.1 h
  obtain ⟨v, hv, hw⟩ := attempt_apply .createTable w
  obtain ⟨u, hu, hv'⟩ := attempt_apply .describeTable
    { v with store := { v.store with created := true } }
  rw [hclear] at hv
  -- The creation was counted, but not as a use of the wait.
  have hwait : (({ v.store with created := true } : Store).use .describeTable).1 =
      w.store.waitError := by
    rw [hw, waitError]
    simp [use]
  have hspared : Spares w u := by
    rw [hv', hw]
    exact ⟨rfl, rfl⟩
  have hnot : ¬ v.store.created = true := by
    intro hthere
    rw [hw] at hthere
    rw [if_pos hthere] at habsent
    cases habsent
  refine ⟨u, ?_, hspared⟩
  rw [createTable, Action.bind_of_ok (access_apply _ w), Action.bind_of_ok hv,
    Action.bind_of_ok (rfl : Action.world v = ⟨.ok v, [], v⟩), if_neg hnot,
    Action.bind_of_ok (modify_apply _ v), Action.bind_of_ok (access_apply _ _), hu, hwait]
  rfl

/-! ### The connection -/

/-- The session that an attempt begins with. -/
abbrev sessionOf (w : World) : Event := .access (.session (Access.sessionOptions w.settings))

/-- Once the table is created the connection is open. -/
theorem openConnection_of_ok (h : createTable w.settings.tableName w = ⟨.ok (), events, v⟩) :
    openConnection w =
      ⟨.ok (), sessionOf w :: events, { v with store := { v.store with connected := true } }⟩ := by
  simp [openConnection, Action.bind_apply, Action.world, Action.recover, h, Outcome.andThen,
    Outcome.preceded]

/-- A table that is there is opened. -/
theorem openConnection_of_present
    (h : createTable w.settings.tableName w = ⟨.error (.store e), events, v⟩)
    (he : e.code = inUseCode) :
    openConnection w =
      ⟨.ok (), sessionOf w :: events ++ [.access (.openTable w.settings.tableName)],
        { v with store := { v.store with connected := true } }⟩ := by
  simp [openConnection, Action.bind_apply, Action.world, Action.recover, h, he, Outcome.andThen,
    Outcome.preceded]

/-- Any other error is passed on, and the connection is not open. -/
theorem openConnection_of_error
    (h : createTable w.settings.tableName w = ⟨.error (.store e), events, v⟩)
    (he : e.code ≠ inUseCode) :
    openConnection w = ⟨.error (.store e), sessionOf w :: events, v⟩ := by
  simp [openConnection, Action.bind_apply, Action.world, Action.recover, h, he, Outcome.andThen,
    Outcome.preceded]

/-- **To open a connection is to make one attempt.** It leaves the records
alone, and opens the connection exactly if it succeeds. -/
theorem openConnection_handshake (w : World) :
    ∃ failed accesses v, Handshake w failed accesses ∧
      openConnection w = ⟨resultOf failed, accesses.map .access, v⟩ ∧
      v.store.records = w.store.records ∧
      v.store.connected = (failed.isNone || w.store.connected) := by
  -- The two answers and the code of the error decide how the attempt goes.
  cases hcreation : w.store.creationError with
  | some e =>
    obtain ⟨v, hv, hspared⟩ := createTable_of_creationError w.settings.tableName hcreation
    by_cases he : e.code = inUseCode
    · exact ⟨_, _, _, .present hcreation he, openConnection_of_present hv he,
        hspared.records_eq, rfl⟩
    · exact ⟨_, _, v, .refused hcreation he, openConnection_of_error hv he,
        hspared.records_eq, hspared.connected_eq⟩
  | none =>
    obtain ⟨v, hv, hspared⟩ := createTable_of_created w.settings.tableName hcreation
    cases hwait : w.store.waitError with
    | none =>
      rw [hwait] at hv
      exact ⟨_, _, _, .created hcreation hwait, openConnection_of_ok hv, hspared.records_eq, rfl⟩
    | some e =>
      rw [hwait] at hv
      by_cases he : e.code = inUseCode
      · exact ⟨_, _, _, .overtaken hcreation hwait he, openConnection_of_present hv he,
          hspared.records_eq, rfl⟩
      · exact ⟨_, _, v, .unawaited hcreation hwait he, openConnection_of_error hv he,
          hspared.records_eq, hspared.connected_eq⟩

/-- Without a connection one is opened. -/
theorem connect_of_unconnected (h : w.store.connected = false) :
    connect w = openConnection w := by
  have hnot : ¬ w.store.connected = true := by
    rw [h]
    decide
  rw [connect, Action.bind_of_ok (rfl : Action.world w = ⟨.ok w, [], w⟩), if_neg hnot]
  rfl

/-! ## Work on records -/

/-- Whether an access is part of opening the connection. All others are to
records. -/
def Access.isOpening : Access → Bool
  | session _ | createTable _ | awaitTable | openTable _ => true
  | put _ | get _ | scan _ _ | delete _ => false

/-- **Only records are accessed.** -/
def OnRecords (events : List Event) : Prop :=
  ∀ e ∈ events, ∃ a : Access, e = .access a ∧ a.isOpening = false

theorem OnRecords.nil : OnRecords [] := fun _ h => by cases h

theorem OnRecords.append {more : List Event} (h : OnRecords events) (h' : OnRecords more) :
    OnRecords (events ++ more) :=
  List.forall_mem_append.2 ⟨h, h'⟩

end Store

namespace Action

open Store (OnRecords)

variable {α β : Type}

/-- **An action that takes the connection as it stands**: in any world it
accesses only records, and leaves the connection open or closed. -/
def LeavesConnection (x : Action α) : Prop :=
  ∀ w, OnRecords (x w).events ∧ (x w).world.store.connected = w.store.connected

namespace LeavesConnection

theorem pure (a : α) : (Pure.pure a : Action α).LeavesConnection := fun _ => ⟨.nil, rfl⟩

theorem fail (f : Failure) : (Action.fail f : Action α).LeavesConnection := fun _ => ⟨.nil, rfl⟩

theorem world : Action.world.LeavesConnection := fun _ => ⟨.nil, rfl⟩

theorem bind {x : Action α} {f : α → Action β} (hx : x.LeavesConnection)
    (hf : ∀ a, (f a).LeavesConnection) : (x >>= f).LeavesConnection := by
  intro w
  obtain ⟨hevents, hconnected⟩ := hx w
  rw [bind_apply]
  rcases hxw : x w with ⟨e | a, events, v⟩
  · rw [hxw] at hevents hconnected
    exact ⟨hevents, hconnected⟩
  · rw [hxw] at hevents hconnected
    exact ⟨hevents.append (hf a v).1, (hf a v).2.trans hconnected⟩

theorem map {x : Action α} (f : α → β) (hx : x.LeavesConnection) :
    (f <$> x).LeavesConnection := by
  intro w
  rw [map_apply]
  exact hx w

theorem ofShape (r : Except Mismatch α) : (Action.ofShape r).LeavesConnection := by
  cases r with
  | ok a => exact .pure a
  | error m => exact .fail _

end LeavesConnection

end Action

namespace Store

variable {w : World}

theorem leavesConnection_access {a : Access} (h : a.isOpening = false) :
    (access a).LeavesConnection :=
  fun _ => ⟨List.forall_mem_singleton.2 ⟨a, rfl, h⟩, rfl⟩

theorem leavesConnection_attempt (operation : Operation) :
    (attempt operation).LeavesConnection := by
  intro w
  obtain ⟨v, hv, hw⟩ := attempt_apply operation w
  rw [hv]
  exact ⟨.nil, by rw [hw]⟩

theorem leavesConnection_modify {f : Store → Store} (h : ∀ s, (f s).connected = s.connected) :
    (modify f).LeavesConnection :=
  fun w => ⟨.nil, h w.store⟩

theorem leavesConnection_scanAll (kind : Json) (bound : Nat) (after : Option String) :
    (scanAll kind bound after).LeavesConnection := by
  induction bound generalizing after with
  | zero => exact .pure []
  | succ bound ih =>
    have hscan : (scan kind after).LeavesConnection :=
      .bind (leavesConnection_access rfl) fun _ => .bind (leavesConnection_attempt _) fun _ =>
        .bind .world fun _ => .pure _
    refine .bind hscan fun page => ?_
    cases page.last with
    | none => exact .pure _
    | some key => exact .bind (ih (some key)) fun _ => .pure _

/-- **A request connects and then works on records.** -/
theorem Request.run_eq (q : Request) :
    ∃ work : Action Answer, q.run = (connect >>= fun _ => work) ∧ work.LeavesConnection := by
  cases q with
  | save record =>
    exact ⟨_, map_bind _ _ _, .map _ (.bind (leavesConnection_access rfl) fun _ =>
      .bind (leavesConnection_attempt _) fun _ => .bind (.ofShape _) fun _ =>
        leavesConnection_modify fun _ => rfl)⟩
  | get key =>
    exact ⟨_, map_bind _ _ _, .map _ (.bind (leavesConnection_access rfl) fun _ =>
      .bind (leavesConnection_attempt _) fun _ => .bind .world fun _ => .pure _)⟩
  | list kind =>
    exact ⟨_, map_bind _ _ _, .map _ (.bind .world fun _ => leavesConnection_scanAll _ _ _)⟩
  | delete key =>
    exact ⟨_, map_bind _ _ _, .map _ (.bind (leavesConnection_access rfl) fun _ =>
      .bind (leavesConnection_attempt _) fun _ => .bind .world fun _ =>
        .bind (leavesConnection_modify fun _ => rfl) fun _ => .pure _)⟩

/-- On an open connection a request works on records alone, and keeps the
connection. -/
theorem Request.run_of_connected (q : Request) (h : w.store.connected = true) :
    OnRecords (q.run w).events ∧ (q.run w).world.store.connected = true := by
  obtain ⟨work, hq, hwork⟩ := q.run_eq
  rw [hq, Action.bind_of_ok (connect_of_connected h)]
  exact ⟨(hwork w).1, (hwork w).2.trans h⟩

/-! ## Sequences of requests -/

/-- A request of a sequence, with what it meets at the table service:
whether the table is there, and the errors to come. -/
structure Round where
  request : Request
  created : Bool
  faults : List Fault

/-- A request that was made: the world that it was made in, and its
outcome. -/
structure Passage where
  request : Request
  before : World
  outcome : Outcome Answer

/-- The world that a request is made in. The uses that faults count are
counted anew for each. -/
def Round.opening (r : Round) (w : World) : World :=
  { w with store := { w.store with created := r.created, faults := r.faults, uses := [] } }

/-- Makes a request. -/
def Round.passage (r : Round) (w : World) : Passage :=
  ⟨r.request, r.opening w, r.request.run (r.opening w)⟩

/-- **Makes requests one after another.** The records and the connection are
those that the request before left. -/
def passages (w : World) : List Round → List Passage
  | [] => []
  | r :: rest => r.passage w :: passages (r.passage w).outcome.world rest

/-! ### What rounds can meet -/

/-- The error to come that is this one, whenever its operation is used. -/
def TableError.fault (e : TableError) : Fault := ⟨e.operation, none, e.code, e.message⟩

@[simp] theorem TableError.error_fault (e : TableError) : e.fault.error = e := rfl

/-- Where errors are to come whenever their operations are used, an operation
is answered with its first one. -/
theorem use_of_faults {s : Store} {errors : List TableError}
    (h : s.faults = errors.map TableError.fault) (operation : Operation) :
    (s.use operation).1 = errors.find? fun e => e.operation = operation := by
  have hhits (count : Nat) : (fun f : Fault => f.hits operation count) ∘ TableError.fault =
      fun e => decide (e.operation = operation) := by
    funext e
    exact Bool.and_true _
  have herror : Fault.error ∘ TableError.fault = id := funext TableError.error_fault
  rw [use, h, List.find?_map, hhits, Option.map_map, herror, Option.map_id_fun, id]

/-- **Whatever the table service answers** to the creation of the table and to
the wait for it, some round meets it. -/
theorem exists_round (w : World) (q : Request) {creation wait : Option TableError}
    (hcreation : ∀ e ∈ creation, e.operation = .createTable)
    (hwait : ∀ e ∈ wait, e.operation = .describeTable) :
    ∃ r : Round, r.request = q ∧ (r.opening w).store.creationError = creation ∧
      (r.opening w).store.waitError = wait := by
  let r : Round := ⟨q, false, (creation.toList ++ wait.toList).map TableError.fault⟩
  have huse := use_of_faults (rfl : (r.opening w).store.faults = _)
  refine ⟨r, rfl, ?_, ?_⟩
  · rw [creationError, huse]
    cases creation <;> cases wait <;> simp_all [r, Round.opening]
  · rw [waitError, huse]
    cases creation <;> cases wait <;> simp_all

/-! ### How rounds go -/

/-- **A request that fails to connect**: one attempt is all that it does, and
the error of the attempt is what comes of it. The records are as they were,
and there is no connection. -/
def Passage.Fails (p : Passage) : Prop :=
  ∃ e accesses, Handshake p.before (some e) accesses ∧
    p.outcome.events = accesses.map .access ∧ p.outcome.result = .error (.store e) ∧
    p.outcome.world.store.records = p.before.store.records ∧
    p.outcome.world.store.connected = false

/-- **A request that connects**: it starts with one attempt, which succeeds,
and goes on as it does on an open connection, with work on records. -/
def Passage.Connects (p : Passage) : Prop :=
  ∃ accesses v, Handshake p.before none accesses ∧ v.store.connected = true ∧
    v.store.records = p.before.store.records ∧
    p.outcome = (p.request.run v).preceded (accesses.map .access) ∧
    OnRecords (p.request.run v).events

/-- A request that connects leaves the connection open. -/
theorem Passage.Connects.connected {p : Passage} (h : p.Connects) :
    p.outcome.world.store.connected = true := by
  obtain ⟨accesses, v, -, hopen, -, hrun, -⟩ := h
  rw [hrun]
  exact (p.request.run_of_connected hopen).2

/-- **Without a connection** a request makes one attempt, and fails or
connects. -/
theorem Round.fails_or_connects (r : Round) (h : w.store.connected = false) :
    (r.passage w).Fails ∨ (r.passage w).Connects := by
  have hclosed : (r.opening w).store.connected = false := h
  obtain ⟨failed, accesses, v, hshake, hopening, hrecords, hconnected⟩ :=
    openConnection_handshake (r.opening w)
  have hconnect : connect (r.opening w) = ⟨resultOf failed, accesses.map .access, v⟩ := by
    rw [connect_of_unconnected hclosed, hopening]
  obtain ⟨work, hq, -⟩ := r.request.run_eq
  have hrun : (r.passage w).outcome = (connect >>= fun _ => work) (r.opening w) :=
    congrFun hq (r.opening w)
  cases failed with
  | some e =>
    left
    rw [Action.bind_of_error hconnect] at hrun
    refine ⟨e, accesses, hshake, ?_⟩
    rw [hrun]
    exact ⟨rfl, rfl, hrecords, hconnected.trans hclosed⟩
  | none =>
    right
    -- On the open connection the request connects to no effect.
    have hwork : r.request.run v = work v := by
      rw [hq, Action.bind_of_ok (connect_of_connected hconnected)]
      rfl
    rw [Action.bind_of_ok hconnect, ← hwork] at hrun
    exact ⟨accesses, v, hshake, hconnected, hrecords, hrun,
      (r.request.run_of_connected hconnected).1⟩

/-- **With a connection** no request connects again. -/
theorem onRecords_of_connected (rounds : List Round) (h : w.store.connected = true) :
    ∀ p ∈ passages w rounds, OnRecords p.outcome.events := by
  induction rounds generalizing w with
  | nil => exact List.forall_mem_nil _
  | cons r rest ih =>
    have hopen : (r.opening w).store.connected = true := h
    obtain ⟨hevents, hkept⟩ := r.request.run_of_connected hopen
    exact List.forall_mem_cons.2 ⟨hevents, ih hkept⟩

/-- **The table is connected at most once**, and an attempt that fails leaves
nothing behind. Of any sequence of requests the first ones fail to connect,
each in an attempt of its own. The next one, if there is one, connects, and
all later ones only work on records, however this goes. -/
theorem connected_at_most_once (hw : w.store.connected = false) (rounds : List Round) :
    ∃ tried rest, passages w rounds = tried ++ rest ∧ (∀ p ∈ tried, p.Fails) ∧
      ∀ p later, rest = p :: later →
        p.Connects ∧ ∀ q ∈ later, OnRecords q.outcome.events := by
  induction rounds generalizing w with
  | nil => exact ⟨[], [], rfl, List.forall_mem_nil _, fun _ _ h => by cases h⟩
  | cons r rest ih =>
    rcases r.fails_or_connects hw with hfails | hconnects
    · -- The next request is where this one was.
      have hclosed : (r.passage w).outcome.world.store.connected = false := by
        obtain ⟨e, accesses, -, -, -, -, hclosed⟩ := hfails
        exact hclosed
      obtain ⟨tried, others, heq, htried, hothers⟩ := ih hclosed
      refine ⟨r.passage w :: tried, others, ?_, List.forall_mem_cons.2 ⟨hfails, htried⟩, hothers⟩
      rw [passages, heq, List.cons_append]
    · refine ⟨[], passages w (r :: rest), rfl, List.forall_mem_nil _, ?_⟩
      rintro p later heq
      cases heq
      exact ⟨hconnects, onRecords_of_connected rest hconnects.connected⟩

/-- A world with two records, before the first request. -/
def unconnected : World :=
  { Dns.calm heldRecords [] with
    store := { (Dns.calm heldRecords []).store with created := false, connected := false } }

/-- The creation of the table is refused, then the wait for it gives up. At
the third request the table is there, but deletes nothing. After that the
creation of the table would be refused again. -/
def slowStart : List Round :=
  let throttled : Fault := ⟨.createTable, none, "ThrottlingException", "slow down"⟩
  let late : Fault := ⟨.describeTable, none, "WaiterError", "max attempts exceeded"⟩
  let failing : Fault := ⟨.deleteItem, none, "InternalServerError", "try again"⟩
  [⟨.get "placement_group/pg-1", false, [throttled]⟩, ⟨.list none, false, [late]⟩,
    ⟨.delete "placement_group/pg-1", true, [failing]⟩,
    ⟨.get "placement_group/pg-1", false, [throttled]⟩]

/-- The third request connects, and the fourth does not need to. -/
theorem connected_at_most_once_slowStart :
    unconnected.store.connected = false ∧
      (∃ tried rest, passages unconnected slowStart = tried ++ rest ∧ (∀ p ∈ tried, p.Fails) ∧
        ∀ p later, rest = p :: later →
          p.Connects ∧ ∀ q ∈ later, OnRecords q.outcome.events) ∧
      (passages unconnected slowStart).map (fun p => p.outcome.events.map Event.name) =
        [["dynamodb.resource", "dynamodb.create_table"],
          ["dynamodb.resource", "dynamodb.create_table", "dynamodb.wait_until_exists"],
          ["dynamodb.resource", "dynamodb.create_table", "dynamodb.Table",
            "dynamodb.delete_item"],
          ["dynamodb.get_item"]] :=
  ⟨rfl, connected_at_most_once rfl slowStart, rfl⟩

end Store

end NetSteward
