/-!
# Names that start alike

Names of characters in order often differ in their last words only, so
they are listed in runs.
-/

namespace NetSteward

namespace Text

namespace Name

/-- The names of characters in order. -/
structure Run where
  /-- The code point of the first character. -/
  first : Nat
  /-- How all the names start. -/
  start : String
  /-- How they go on, with semicolons between them. -/
  rests : String

/-- The code point of the character with a name, if it is in the run. -/
def Run.point? (r : Run) (name : String) : Option Nat :=
  if r.start.toList.isPrefixOf name.toList then
    let rest := String.ofList (name.toList.drop r.start.length)
    ((r.rests.splitOn ";").findIdx? (· == rest)).map (r.first + ·)
  else none

end Name

end Text

end NetSteward
