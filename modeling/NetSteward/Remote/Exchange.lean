import NetSteward.Action
import NetSteward.Remote.Cursor
/-!
# Exchanges with the service

`send` makes one call and yields the body of the reply. `listAll` walks
through the pages of a collection: it goes on as long as a page names
the next one, and fails as soon as one call fails. The walk is by
recursion on the replies to come, so it ends with them at the latest.
-/

namespace NetSteward

namespace Remote

/-- What a reply means to a call that was made for a purpose. -/
def Reply.result (purpose : String) : Reply → Except Failure Json
  | ok body => .ok body
  | refused refusal => .error (.refused purpose refusal)
  | disconnected reason => .error (.disconnected reason)

/-- Makes a call for a purpose and yields the body of the reply. -/
def sendFor (purpose : String) (call : Call) : Action Json := fun w =>
  ⟨w.nextReply.1.result purpose, [.exchange call w.nextReply.1], w.nextReply.2⟩

/-- Makes a call for its own purpose. -/
def send (call : Call) : Action Json := sendFor call.purpose call

/-- Only a body is a result. -/
@[simp] theorem Reply.result_eq_ok_iff {purpose : String} {r : Reply} {body : Json} :
    r.result purpose = .ok body ↔ r = .ok body := by
  cases r <;> simp [Reply.result]

/-- **A call is one event**, whatever its reply. -/
@[simp] theorem sendFor_events (purpose : String) (call : Call) (w : World) :
    (sendFor purpose call w).events = [.exchange call w.nextReply.1] := rfl

/-- A call leaves the state table as it is. -/
@[simp] theorem sendFor_store (purpose : String) (call : Call) (w : World) :
    (sendFor purpose call w).world.store = w.store := World.nextReply_store w

/-! ## Walks through collections -/

/-- How a walk ends: with the items or a failure, the events of the walk
and the replies that are left. -/
structure Walk where
  result : Except Failure (List Json)
  events : List Event
  left : List Reply

/-- A walk through a collection from a token on. -/
def walk (collection : Collection) (limit : Json) (exhausted : Refusal) :
    List Reply → Option String → Walk
  | [], start =>
    ⟨.error (.refused collection.purpose exhausted),
      [.exchange (.list collection start limit) (.refused exhausted)], []⟩
  | reply :: rest, start =>
    let sent := Event.exchange (.list collection start limit) reply
    match reply.result collection.purpose with
    | .error f => ⟨.error f, [sent], rest⟩
    | .ok page =>
      match readPage collection page with
      | .error m => ⟨.error (.unreadable (.shape m)), [sent], rest⟩
      | .ok (items, none) => ⟨.ok items, [sent], rest⟩
      | .ok (items, some token) =>
        let more := walk collection limit exhausted rest (some token)
        ⟨more.result.map (items ++ ·), sent :: more.events, more.left⟩

/-- The items of a collection, across all pages. -/
def listAll (collection : Collection) : Action (List Json) := fun w =>
  let walked := walk collection w.pageLimit w.exhausted w.replies none
  ⟨walked.result, walked.events, { w with replies := walked.left }⟩

/-- A walk leaves the state table as it is. -/
@[simp] theorem listAll_store (collection : Collection) (w : World) :
    (listAll collection w).world.store = w.store := rfl

end Remote

end NetSteward
