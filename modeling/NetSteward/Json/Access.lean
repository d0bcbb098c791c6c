import NetSteward.Json.Value
import NetSteward.Text.CodePoint
/-!
# Reaching into a value

Answers of the service are read member by member, and nothing promises
that they have the expected form. Each way of reaching into a value says
for which forms it works; on any other it yields the `Mismatch` that
names what went wrong.
-/

namespace NetSteward

/-- What can go wrong when a value of an unexpected form is read. -/
inductive Mismatch
  /-- A member was asked of a value that has none. -/
  | noMembers
  /-- A required member is absent. -/
  | missing (name : String)
  /-- A required member was asked of a value that is no object. -/
  | notIndexed
  /-- The items were asked of a value that has none. -/
  | notIterable
  /-- A value that names nothing was used as a name or as a key. -/
  | notAName
  /-- A whole number was asked of a value that writes none. -/
  | notNumeric
  /-- A number is too large to be whole, or a date is out of range. -/
  | outOfRange
  /-- A text or a number is not in the form that is asked of it. -/
  | malformed
  /-- A text that holds half of a character was to be made into bytes. -/
  | unencodable
  /-- Text does not write whole bytes. -/
  | incomplete
  /-- JSON text is nested too deep. -/
  | tooDeep
  /-- A secret is too long to be compared with a hash. -/
  | oversizedSecret
  /-- The clock cannot be read so far from the start of 1970. -/
  | beyondClock
  /-- A text is no target of a request. -/
  | unfitTarget
  /-- A target is to be reached over a connection of another kind. -/
  | otherConnection
  /-- A value does not serve as a key. -/
  | notAKey
  /-- Nothing can be signed with the key and the algorithm that are set. -/
  | notSigned
  /-- Arguments do not fit the parameters that they are given for. -/
  | unfitArguments
  /-- A value that is no text stands where texts are kept. -/
  | notText
  /-- A variable has no name. -/
  | unnamed
  /-- What is said about the sources of the settings does not serve. -/
  | unfitSource
  /-- A command line is refused, and with it the program ends. -/
  | ended
deriving DecidableEq

namespace Json

/-- The member of an object, if it is there. -/
def find? (j : Json) (name : String) : Except Mismatch (Option Json) :=
  match j with
  | .obj members => .ok (Keyed.get? members name)
  | _ => .error .noMembers

/-- The member of an object, null if it is absent. -/
def find (j : Json) (name : String) : Except Mismatch Json :=
  match j with
  | .obj members => .ok ((Keyed.get? members name).getD .null)
  | _ => .error .noMembers

/-- A required member of an object. -/
def require (j : Json) (name : String) : Except Mismatch Json :=
  match j with
  | .obj members => match Keyed.get? members name with
    | some v => .ok v
    | none => .error (.missing name)
  | _ => .error .notIndexed

/-- The items of a value: of a list its items, of a text its characters,
of an object its names. -/
def iterate : Json → Except Mismatch (List Json)
  | .arr items => .ok items
  | .str s => .ok ((Text.codePoints s.toList).map fun n => .str (String.ofList (Text.holding n)))
  | .obj members => .ok (members.map fun e => .str e.1)
  | _ => .error .notIterable

/-- The items of a value that is given, else none. -/
def iterateGiven (j : Json) : Except Mismatch (List Json) :=
  if j.isGiven then j.iterate else .ok []

@[simp] theorem find_obj (members : List (String × Json)) (name : String) :
    find (.obj members) name = .ok ((Keyed.get? members name).getD .null) := rfl

/-- A member that is required is found. -/
theorem find_eq_of_require {j k : Json} {name : String} (h : j.require name = .ok k) :
    j.find name = .ok k := by
  cases j with
  | obj members =>
    rw [require] at h
    rw [find]
    split at h
    next hk => cases h; rw [hk]; rfl
    next => cases h
  | null | bool | int | float | str | arr => cases h

end Json

end NetSteward
