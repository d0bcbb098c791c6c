import NetSteward.Json.Access
import NetSteward.Json.Display
import NetSteward.Schema.Checked
/-!
# Unreadable answers

An answer of the service is read in steps, each of which can fail: a
value is not of the form that the step needs, a part does not pass its
checks, or an object fits none of the variants it could be.
-/

namespace NetSteward

/-- The parts of a route that come in variants. -/
inductive RoutePart
  | nextHop
  | creator
deriving DecidableEq

/-- The published name of a part. -/
def RoutePart.name : RoutePart → String
  | nextHop => "next_hop"
  | creator => "creator"

/-- Why an answer cannot be read. -/
inductive Unreadable
  | shape (mismatch : Mismatch)
  | invalid (issues : List Issue)
  /-- An object fits no variant of a part. -/
  | unknownVariant (part : RoutePart) (value : Json)
  /-- A record with this title is no variant of a part. -/
  | wrongVariant (part : RoutePart) (title : String)

/-- The message about a part that fits no variant. -/
def Unreadable.variantMessage (part : RoutePart) (value : Json) : String :=
  "Unrecognized route " ++ part.name ++ ": " ++ value.display

/-- The message about a record that is no variant of a part. -/
def Unreadable.titleMessage (part : RoutePart) (title : String) : String :=
  "Unrecognized " ++ part.name ++ " variant: " ++ title

/-- The result of reading an answer. -/
abbrev Read : Type → Type := Except Unreadable

/-- A step that needs a value of some form. -/
def shaped {α : Type} : Except Mismatch α → Read α
  | .ok a => .ok a
  | .error m => .error (.shape m)

/-- A step that checks a part. -/
def checked {α : Type} : Checked α → Read α
  | .ok a => .ok a
  | .failed issues => .error (.invalid issues)

/-- A record that is made of named arguments, which only an object
gives. -/
def ofArguments {α : Type} (check : Json → Checked α) : Json → Read α
  | .obj arguments => checked (check (.obj arguments))
  | _ => .error (.shape .unfitArguments)

/-- Reads the items of a list one after another. -/
def readEach {α : Type} (read : Json → Read α) : List Json → Read (List α)
  | [] => .ok []
  | j :: rest => do
    let a ← read j
    let more ← readEach read rest
    return a :: more

@[simp] theorem shaped_ok {α : Type} (a : α) : shaped (.ok a) = .ok a := rfl

@[simp] theorem checked_ok {α : Type} (a : α) : checked (.ok a) = .ok a := rfl

/-- A step is taken exactly when the value has the form. -/
theorem shaped_eq_ok_iff {α : Type} {x : Except Mismatch α} {a : α} :
    shaped x = .ok a ↔ x = .ok a := by
  cases x <;> simp [shaped]

/-- A check is passed exactly when it yields the value. -/
@[simp] theorem checked_eq_ok_iff {α : Type} {x : Checked α} {a : α} :
    checked x = .ok a ↔ x = .ok a := by
  cases x <;> simp [checked]

end NetSteward
