import NetSteward.Keyed
import NetSteward.Number.Binary64
/-!
# JSON values

A value keeps what the service and the store can tell apart: integers of
any size beside binary64 numbers, and the order of an object's members.
Two views of a value matter here: whether it counts as given, which
decides every default, and whether it has the same value as another,
which decides every look-up.
-/

namespace NetSteward

/-- Whether an optional text is given: it is there and not empty. -/
def isGiven (s : Option String) : Bool :=
  match s with
  | none => false
  | some s => s ≠ ""

/-- A JSON value. The members of an object are in order and have
distinct names. -/
inductive Json
  | null
  | bool (b : Bool)
  | int (n : Int)
  | float (x : Binary64)
  | str (s : String)
  | arr (items : List Json)
  | obj (members : List (String × Json))

namespace Json

instance : Inhabited Json := ⟨.null⟩

/-- Whether a value counts as given: null, false, zero and everything
empty do not. -/
def isGiven : Json → Bool
  | .null => false
  | .bool b => b
  | .int n => n ≠ 0
  | .float x => !x.isZero
  | .str s => s ≠ ""
  | .arr items => !items.isEmpty
  | .obj members => !members.isEmpty

/-- The value itself if it is given, else an empty object. -/
def orEmpty (j : Json) : Json := if j.isGiven then j else .obj []

/-- Whether a value is null. -/
def isNull : Json → Bool
  | .null => true
  | _ => false

/-- Whether a value is a given string. -/
def isStr (s : String) : Json → Bool
  | .str t => t = s
  | _ => false

/-- A string, or null for none. -/
def ofOption : Option String → Json
  | none => .null
  | some s => .str s

/-- The number that a value is, if it is one: true and false count as
one and zero. -/
def number? : Json → Option (Int ⊕ Binary64)
  | .bool b => some (.inl (if b then 1 else 0))
  | .int n => some (.inl n)
  | .float x => some (.inr x)
  | _ => none

/-- Whether two numbers have the same value. -/
def sameNumber : Int ⊕ Binary64 → Int ⊕ Binary64 → Bool
  | .inl a, .inl b => a = b
  | .inl a, .inr b => b.toInt? = some a
  | .inr a, .inl b => a.toInt? = some b
  | .inr a, .inr b => a.sameValue b

mutual

/-- Whether two values are the same: numbers by value, lists item by
item, objects by their members in any order. -/
def same : Json → Json → Bool
  | .null, .null => true
  | .str a, .str b => a = b
  | .arr xs, .arr ys => sameItems xs ys
  | .obj xs, .obj ys => xs.length = ys.length && sameMembers xs ys
  | a, b => match a.number?, b.number? with
    | some m, some n => sameNumber m n
    | _, _ => false
termination_by structural j => j

/-- Whether two lists are the same item by item. -/
def sameItems : List Json → List Json → Bool
  | [], [] => true
  | x :: xs, y :: ys => same x y && sameItems xs ys
  | _, _ => false
termination_by structural xs => xs

/-- Whether each member of the first object is one of the second. -/
def sameMembers : List (String × Json) → List (String × Json) → Bool
  | [], _ => true
  | x :: xs, ys => sameMember x ys && sameMembers xs ys
termination_by structural xs => xs

/-- Whether a member is one of an object. -/
def sameMember : String × Json → List (String × Json) → Bool
  | (k, v), ys => match Keyed.get? ys k with
    | some w => same v w
    | none => false
termination_by structural x => x

end

@[simp] theorem isGiven_str (s : String) : (Json.str s).isGiven = true ↔ s ≠ "" := by
  simp [isGiven]

/-- An optional text is given exactly when its value is. -/
@[simp] theorem isGiven_ofOption (s : Option String) :
    (ofOption s).isGiven = NetSteward.isGiven s := by
  cases s <;> rfl

theorem isNull_iff (j : Json) : j.isNull = true ↔ j = .null := by
  cases j <;> simp [isNull]

@[simp] theorem isStr_iff (s : String) (j : Json) : j.isStr s = true ↔ j = .str s := by
  cases j <;> simp [isStr]

/-- On strings, to be the same is to be equal. -/
@[simp] theorem same_str (a b : String) : same (.str a) (.str b) = true ↔ a = b := by
  simp [same]

end Json

end NetSteward
