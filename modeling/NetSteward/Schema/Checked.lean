import NetSteward.Schema.Issue
/-!
# Checked values

Reading a record reports every issue of every field, in the order of the
fields. `Checked` is the result of such a reading: a value, or the
issues. Its applicative composition collects the issues of both sides,
so a record is read by applying its constructor to its fields.
-/

namespace NetSteward

/-- A value that passed its checks, or all that is wrong with it. -/
inductive Checked (α : Type) where
  | ok (value : α)
  | failed (issues : List Issue)

namespace Checked

variable {α β : Type}

/-- Applies a function to a value that passed. -/
def map (f : α → β) : Checked α → Checked β
  | ok a => ok (f a)
  | failed issues => failed issues

/-- Applies a checked function to a checked value, with the issues of
both. -/
def apply : Checked (α → β) → Checked α → Checked β
  | ok f, ok a => ok (f a)
  | ok _, failed issues => failed issues
  | failed issues, ok _ => failed issues
  | failed issues, failed more => failed (issues ++ more)

instance : Functor Checked where
  map f x := x.map f

instance : Applicative Checked where
  pure := ok
  seq f x := f.apply (x ())

/-- One issue at the place itself. -/
def issue (cause : Issue.Cause) : Checked α := failed [⟨cause, []⟩]

/-- A check of a part, seen from the whole. -/
def within (loc : Location) : Checked α → Checked α
  | ok a => ok a
  | failed issues => failed (issues.map (Issue.within loc))

/-- A further check of a value that passed. -/
def andThen (x : Checked α) (f : α → Checked β) : Checked β :=
  match x with
  | ok a => f a
  | failed issues => failed issues

/-- Checks the items of a list, numbered from `index`. -/
def collect (check : Json → Checked α) (index : Nat) : List Json → Checked (List α)
  | [] => ok []
  | j :: rest => (List.cons <$> (check j).within (.item index)) <*> collect check (index + 1) rest

/-- The issues, none if the value passed. -/
def issues : Checked α → List Issue
  | ok _ => []
  | failed issues => issues

@[simp] theorem map_ok (f : α → β) (a : α) : f <$> (ok a : Checked α) = ok (f a) := rfl

@[simp] theorem map_failed (f : α → β) (is : List Issue) :
    f <$> (failed is : Checked α) = failed is := rfl

@[simp] theorem ok_seq_ok (f : α → β) (a : α) :
    (ok f : Checked (α → β)) <*> ok a = ok (f a) := rfl

@[simp] theorem within_ok (loc : Location) (a : α) : (ok a).within loc = ok a := rfl

/-- **A composition passes exactly when both sides do.** -/
theorem seq_eq_ok_iff {f : Checked (α → β)} {x : Checked α} {b : β} :
    f <*> x = ok b ↔ ∃ g a, f = ok g ∧ x = ok a ∧ g a = b := by
  change f.apply x = ok b ↔ _
  cases f <;> cases x <;> simp [apply]

/-- A mapped check passes exactly when the check does. -/
theorem map_eq_ok_iff {f : α → β} {x : Checked α} {b : β} :
    f <$> x = ok b ↔ ∃ a, x = ok a ∧ f a = b := by
  change x.map f = ok b ↔ _
  cases x <;> simp [map]

/-- A check passes from without exactly when it passes from within. -/
@[simp] theorem within_eq_ok_iff {loc : Location} {x : Checked α} {a : α} :
    x.within loc = ok a ↔ x = ok a := by
  cases x <;> simp [within]

end Checked

end NetSteward
