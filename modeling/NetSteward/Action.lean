import NetSteward.Failure
import NetSteward.World
/-!
# Actions

An action runs in a world and ends in an outcome: a value or a failure,
the events of the run in order, and the world after it. A failure undoes
nothing: what was done before it stays done, which is what the
operations that compensate for failures are about.
-/

namespace NetSteward

/-- How an action ends. -/
structure Outcome (α : Type) where
  result : Except Failure α
  events : List Event
  world : World

/-- Something that is done in a world. -/
def Action (α : Type) : Type := World → Outcome α

namespace Outcome

variable {α β : Type}

/-- The outcome of a run with earlier events. -/
def preceded (earlier : List Event) (o : Outcome α) : Outcome α :=
  { o with events := earlier ++ o.events }

/-- What follows a run: on a value another action, on a failure
nothing. -/
def andThen (o : Outcome α) (f : α → Action β) : Outcome β :=
  match o with
  | ⟨.ok a, events, world⟩ => (f a world).preceded events
  | ⟨.error e, events, world⟩ => ⟨.error e, events, world⟩

@[simp] theorem preceded_nil (o : Outcome α) : o.preceded [] = o := rfl

theorem preceded_preceded (e₁ e₂ : List Event) (o : Outcome α) :
    (o.preceded e₂).preceded e₁ = o.preceded (e₁ ++ e₂) := by
  simp [preceded]

theorem andThen_preceded (events : List Event) (o : Outcome α) (f : α → Action β) :
    (o.preceded events).andThen f = (o.andThen f).preceded events := by
  rcases o with ⟨_ | a, more, world⟩
  · rfl
  · simp [preceded, andThen]

end Outcome

namespace Action

variable {α β γ : Type}

/-- The action that only yields a value. -/
def done (a : α) : Action α := fun w => ⟨.ok a, [], w⟩

/-- The action that only fails. -/
def fail (f : Failure) : Action α := fun w => ⟨.error f, [], w⟩

/-- One action after another. -/
def andThen (x : Action α) (f : α → Action β) : Action β := fun w => (x w).andThen f

instance : Monad Action where
  pure := done
  bind := andThen

theorem andThen_done (x : Action α) : x.andThen done = x := by
  funext w
  rw [andThen]
  rcases x w with ⟨_ | a, events, world⟩
  · rfl
  · simp [Outcome.andThen, done, Outcome.preceded]

theorem andThen_assoc (x : Action α) (f : α → Action β) (g : β → Action γ) :
    (x.andThen f).andThen g = x.andThen fun a => (f a).andThen g := by
  funext w
  rw [andThen, andThen, andThen]
  rcases x w with ⟨_ | a, events, world⟩
  · rfl
  · exact Outcome.andThen_preceded events (f a world) g

instance : LawfulMonad Action where
  map_const := rfl
  id_map x := andThen_done x
  seqLeft_eq x y := by
    change (x.andThen fun a => y.andThen fun _ => done a) =
      (x.andThen fun a => done (Function.const _ a)).andThen
        fun f => y.andThen fun b => done (f b)
    rw [andThen_assoc]
    rfl
  seqRight_eq x y := by
    change (x.andThen fun _ => y) =
      (x.andThen fun a => done (Function.const _ id a)).andThen
        fun f => y.andThen fun b => done (f b)
    rw [andThen_assoc]
    change (x.andThen fun _ => y) = x.andThen fun _ => y.andThen done
    rw [andThen_done]
  pure_seq _ _ := rfl
  bind_pure_comp _ _ := rfl
  bind_map _ _ := rfl
  pure_bind _ _ := rfl
  bind_assoc x f g := andThen_assoc x f g

/-- Runs an action and, on a failure that is handled, the handler after
it. -/
def recover (x : Action α) (handler : Failure → Option (Action α)) : Action α := fun w =>
  match x w with
  | ⟨.ok a, events, world⟩ => ⟨.ok a, events, world⟩
  | ⟨.error f, events, world⟩ => match handler f with
    | some y => (y world).preceded events
    | none => ⟨.error f, events, world⟩

/-- Runs an action and, if the service refuses a call, the handler after
it. Other failures pass. -/
def onRefusal (x : Action α) (handler : Remote.Refusal → Action α) : Action α :=
  x.recover fun
    | .refused _ refusal => some (handler refusal)
    | _ => none

/-- Runs an action and, if the service refuses a call, another one before
the refusal is passed on. -/
def afterRefusal (x : Action α) (cleanup : Action Unit) : Action α :=
  x.recover fun
    | .refused purpose refusal =>
      some (cleanup.andThen fun _ => fail (.refused purpose refusal))
    | _ => none

/-- Runs an action and, if the service answers that there is no such
resource, another one instead of failing. -/
def ifMissing (x : Action α) (handler : Action α) : Action α :=
  x.recover fun
    | .refused _ refusal => if refusal.isNotFound then some handler else none
    | _ => none

/-- The value that was read, or the failure to read it. -/
def ofRead (r : Read α) : Action α :=
  match r with
  | .ok a => done a
  | .error cause => fail (.unreadable cause)

/-- The value that was reached into, or the failure to do so. -/
def ofShape (r : Except Mismatch α) : Action α := ofRead (shaped r)

/-- The value that was checked, or the failure of its checks. -/
def ofChecked (r : Checked α) : Action α := ofRead (checked r)

/-- The world as it is. -/
def world : Action World := fun w => ⟨.ok w, [], w⟩

@[simp] theorem pure_apply (a : α) (w : World) : (pure a : Action α) w = ⟨.ok a, [], w⟩ := rfl

@[simp] theorem fail_apply (f : Failure) (w : World) :
    (fail f : Action α) w = ⟨.error f, [], w⟩ := rfl

theorem bind_apply (x : Action α) (f : α → Action β) (w : World) :
    (x >>= f) w = (x w).andThen f := rfl

/-- After a value comes the next action, in the world that was left. -/
theorem bind_of_ok {x : Action α} {w v : World} {a : α} {events : List Event}
    (h : x w = ⟨.ok a, events, v⟩) (f : α → Action β) :
    (x >>= f) w = (f a v).preceded events := by
  rw [bind_apply, h]
  rfl

/-- After a failure comes nothing. -/
theorem bind_of_error {x : Action α} {w v : World} {e : Failure} {events : List Event}
    (h : x w = ⟨.error e, events, v⟩) (f : α → Action β) :
    (x >>= f) w = ⟨.error e, events, v⟩ := by
  rw [bind_apply, h]
  rfl

@[simp] theorem ofRead_ok (a : α) : ofRead (.ok a) = (pure a : Action α) := rfl

@[simp] theorem ofRead_error (c : Unreadable) :
    ofRead (.error c) = (fail (.unreadable c) : Action α) := rfl

end Action

end NetSteward
