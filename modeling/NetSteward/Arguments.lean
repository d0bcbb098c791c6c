import NetSteward.Json.Access
/-!
# Arguments and parameters

A method has parameters in an order, and some of them may be left out.
Arguments are given by place, from the first parameter on, or by name.
They fit if every parameter gets one value at most, none that has to be
there is left out, and no argument is left over.
-/

namespace NetSteward

/-- A parameter of a method. -/
structure Parameter where
  name : String
  /-- Its value where it is left out, if it may be. -/
  default : Option Json

/-- A parameter that has to be there. -/
def Parameter.needed (name : String) : Parameter := ⟨name, none⟩

/-- A parameter that is null where it is left out. -/
def Parameter.optional (name : String) : Parameter := ⟨name, some .null⟩

/-- Arguments as they are given. -/
structure Arguments where
  /-- Those given by place. -/
  placed : List Json
  /-- Those given by name. -/
  named : Keyed Json

namespace Arguments

/-- The values of parameters to which only names refer. -/
def bindNamed : List Parameter → Keyed Json → Except Mismatch (Keyed Json)
  | [], [] => .ok []
  | [], _ :: _ => .error .unfitArguments
  | p :: rest, named =>
    match Keyed.get? named p.name, p.default with
    | some value, _ =>
      (bindNamed rest (Keyed.erase named p.name)).map fun more => (p.name, value) :: more
    | none, some value => (bindNamed rest named).map fun more => (p.name, value) :: more
    | none, none => .error .unfitArguments

/-- The values of parameters. A name that refers to a parameter whose
place is taken is left over in the end. -/
def bind : List Parameter → Arguments → Except Mismatch (Keyed Json)
  | parameters, ⟨[], named⟩ => bindNamed parameters named
  | [], ⟨_ :: _, _⟩ => .error .unfitArguments
  | p :: rest, ⟨value :: placed, named⟩ =>
    (bind rest ⟨placed, named⟩).map fun more => (p.name, value) :: more

end Arguments

end NetSteward
