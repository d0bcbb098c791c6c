import NetSteward.Remote.Call
import NetSteward.Settings
import NetSteward.Store.Access
import NetSteward.Time.Instant
/-!
# The world of an operation

What an operation meets outside: the replies that the service is going
to give, one to each call, the state table, the clock and the settings.
What it does there is a list of events, in order.
-/

namespace NetSteward

/-- What an operation meets outside. -/
structure World where
  /-- The replies to come, one to each call. -/
  replies : List Remote.Reply
  /-- How a call is refused when there are no more replies. -/
  exhausted : Remote.Refusal
  /-- The number of items asked for with each page, as it is set. -/
  pageLimit : Json
  store : Store
  settings : Settings
  clock : Time.Instant

/-- The reply to the next call, and the world after it. -/
def World.nextReply (w : World) : Remote.Reply × World :=
  match w.replies with
  | [] => (.refused w.exhausted, w)
  | reply :: rest => (reply, { w with replies := rest })

namespace World

theorem nextReply_of_nil {w : World} (h : w.replies = []) :
    w.nextReply = (.refused w.exhausted, w) := by
  rw [nextReply, h]

theorem nextReply_of_cons {w : World} {reply : Remote.Reply} {rest : List Remote.Reply}
    (h : w.replies = reply :: rest) :
    w.nextReply = (reply, { w with replies := rest }) := by
  rw [nextReply, h]

/-- Taking a reply leaves the state table as it is. -/
@[simp] theorem nextReply_store (w : World) : w.nextReply.2.store = w.store := by
  rw [nextReply]
  split <;> rfl

end World

/-- One thing that an operation does outside. -/
inductive Event
  /-- A call to the service, and its reply. -/
  | exchange (call : Remote.Call) (reply : Remote.Reply)
  /-- An access to the state table. -/
  | access (access : Store.Access)

namespace Event

/-- The name of what is done. -/
def name : Event → String
  | exchange call _ => call.method
  | access a => a.name

/-- The arguments of what is done. -/
def arguments : Event → List Json
  | exchange call _ => call.arguments
  | access a => a.arguments

/-- The options of what is done. -/
def options : Event → Keyed Json
  | exchange call _ => call.options
  | access a => a.options

/-- An event as it is reported: its name, arguments and options. -/
def toJson (e : Event) : Json := .arr [.str e.name, .arr e.arguments, .obj e.options]

end Event

end NetSteward
