import NetSteward.Operation
import NetSteward.Proofs.Ending
/-!
# Histories

A history is a sequence of turns, each an operation with the replies that
the service gives to it, the faults of the state table and the time. The
state table is what lasts from one turn to the next. `visits` runs a
history and keeps the outcome of each turn.
-/

namespace NetSteward

open Remote (Call Exchange Reply)

/-- One operation of a history, with what it meets. -/
structure Turn where
  operation : Operation
  replies : List Reply
  faults : List Store.Fault
  clock : Time.Instant

/-- A turn that was run: its operation, the world that it started in and
its outcome. -/
structure Visit where
  operation : Operation
  before : World
  outcome : Outcome Json

/-- The world that a turn starts in. The uses that faults count are counted
anew in each turn. -/
def Turn.opening (t : Turn) (w : World) : World :=
  { w with
    replies := t.replies
    clock := t.clock
    store := { w.store with faults := t.faults, uses := [] } }

/-- Runs a turn. -/
def Turn.visit (t : Turn) (w : World) : Visit :=
  ⟨t.operation, t.opening w, t.operation.run (t.opening w)⟩

/-- **Runs a history**, each turn in the world that the one before it
left. -/
def visits (w : World) : List Turn → List Visit
  | [] => []
  | t :: rest => t.visit w :: visits (t.visit w).outcome.world rest

/-- The world after a history. -/
def worldAfter (w : World) : List Turn → World
  | [] => w
  | t :: rest => worldAfter (t.visit w).outcome.world rest

/-- All calls of some visits, in order. -/
def callsOf (xs : List Visit) : List Exchange := xs.flatMap fun x => x.outcome.calls

theorem visits_append (w : World) (turns more : List Turn) :
    visits w (turns ++ more) = visits w turns ++ visits (worldAfter w turns) more := by
  induction turns generalizing w with
  | nil => rfl
  | cons t rest ih => simp only [List.cons_append, visits, worldAfter, ih]

theorem worldAfter_append (w : World) (turns more : List Turn) :
    worldAfter w (turns ++ more) = worldAfter (worldAfter w turns) more := by
  induction turns generalizing w with
  | nil => rfl
  | cons t rest ih => exact ih _

@[simp] theorem callsOf_cons (x : Visit) (xs : List Visit) :
    callsOf (x :: xs) = x.outcome.calls ++ callsOf xs := rfl

/-- The identifier of the binding that a call created, if it is a text. -/
def boundId? : Exchange → Option String
  | (.createBinding _ _ _, .ok body) => match body.require "id" with
    | .ok (.str id) => some id
    | _ => none
  | _ => none

/-- The identifiers of the bindings that some calls created, in order. -/
def boundIds (calls : List Exchange) : List String := calls.filterMap boundId?

@[simp] theorem boundIds_append (calls more : List Exchange) :
    boundIds (calls ++ more) = boundIds calls ++ boundIds more :=
  List.filterMap_append

end NetSteward
