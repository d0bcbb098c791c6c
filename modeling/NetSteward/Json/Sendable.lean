import NetSteward.Json.Access
/-!
# Values that can be sent

Not every value that can be read can be sent: JSON proper has no number
that is not finite, and half of a character pair has no encoding.
`isSendable` tells the values that can; `finite` replaces the numbers
that cannot by null. What is nested too deep cannot be written either:
`depth` counts the lists and objects around the innermost value, and
`writable` holds them to a limit.
-/

namespace NetSteward

namespace Json

/-- Whether a text can be sent. -/
def isSoundText (s : String) : Bool := Text.isSound s.toList

mutual

/-- Whether all numbers with a fraction and all texts of a value, names
included, pass two tests. -/
def every (number : Binary64 → Bool) (text : String → Bool) : Json → Bool
  | .float x => number x
  | .str s => text s
  | .arr items => everyItem number text items
  | .obj members => everyMember number text members
  | _ => true
termination_by structural j => j

/-- Whether all items pass. -/
def everyItem (number : Binary64 → Bool) (text : String → Bool) : List Json → Bool
  | [] => true
  | j :: rest => every number text j && everyItem number text rest
termination_by structural xs => xs

/-- Whether all members pass. -/
def everyMember (number : Binary64 → Bool) (text : String → Bool) :
    List (String × Json) → Bool
  | [] => true
  | m :: rest => memberPasses number text m && everyMember number text rest
termination_by structural xs => xs

/-- Whether a name and its value pass. -/
def memberPasses (number : Binary64 → Bool) (text : String → Bool) : String × Json → Bool
  | (k, v) => text k && every number text v
termination_by structural m => m

end

/-- Whether all numbers of a value are finite. -/
def isFinite (j : Json) : Bool := j.every Binary64.isFinite fun _ => true

/-- Whether all texts of a value hold characters only. -/
def isSound (j : Json) : Bool := j.every (fun _ => true) isSoundText

/-- Whether a value can be sent. -/
def isSendable (j : Json) : Bool := j.isFinite && j.isSound

mutual

/-- A value with null for each number that is not finite. -/
def finite : Json → Json
  | .float x => if x.isFinite then .float x else .null
  | .arr items => .arr (finiteItems items)
  | .obj members => .obj (finiteMembers members)
  | j => j
termination_by structural j => j

/-- Items with null for each number that is not finite. -/
def finiteItems : List Json → List Json
  | [] => []
  | j :: rest => finite j :: finiteItems rest
termination_by structural xs => xs

/-- Members with null for each number that is not finite. -/
def finiteMembers : List (String × Json) → List (String × Json)
  | [] => []
  | m :: rest => finiteMember m :: finiteMembers rest
termination_by structural xs => xs

/-- A name and its value with null for each number that is not
finite. -/
def finiteMember : String × Json → String × Json
  | (k, v) => (k, finite v)
termination_by structural m => m

end

mutual

/-- The number of lists and objects around the innermost value. -/
def depth : Json → Nat
  | .arr items => itemsDepth items + 1
  | .obj members => membersDepth members + 1
  | _ => 0
termination_by structural j => j

/-- The greatest depth of some items. -/
def itemsDepth : List Json → Nat
  | [] => 0
  | j :: rest => max (depth j) (itemsDepth rest)
termination_by structural xs => xs

/-- The greatest depth of the values of some members. -/
def membersDepth : List (String × Json) → Nat
  | [] => 0
  | m :: rest => max (memberDepth m) (membersDepth rest)
termination_by structural xs => xs

/-- The depth of the value of a member. -/
def memberDepth : String × Json → Nat
  | (_, v) => depth v
termination_by structural m => m

end

/-- The greatest depth of a value in a record. -/
def nestingLimit : Nat := 254

/-- A value in which some levels are those of a record, if no value in the
record is nested too deep. -/
def writable (levels : Nat) (j : Json) : Except Mismatch Json :=
  if j.depth ≤ levels + nestingLimit then .ok j else .error .malformed

@[simp] theorem finite_null : finite .null = .null := rfl

@[simp] theorem finite_bool (b : Bool) : finite (.bool b) = .bool b := rfl

@[simp] theorem finite_int (n : Int) : finite (.int n) = .int n := rfl

@[simp] theorem finite_str (s : String) : finite (.str s) = .str s := rfl

/-- An optional text is kept as it is. -/
@[simp] theorem finite_ofOption (s : Option String) : finite (ofOption s) = ofOption s := by
  cases s <;> rfl

end Json

end NetSteward
