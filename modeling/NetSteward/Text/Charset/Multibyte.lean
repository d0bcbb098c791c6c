import NetSteward.Text.Utf8
/-!
# Sets of characters of several bytes

A text is read step by step: each step takes the next byte and as many
behind it as belong to the same character or command, and the state that
a step leaves tells how the next one reads.
-/

namespace NetSteward

namespace Charset

/-- Why a text of bytes is not read. -/
inductive Fault
  /-- It is not well formed. -/
  | malformed
  /-- Its character set refuses it. -/
  | refused
deriving DecidableEq

/-- What is read of a text that may be malformed. -/
def wellFormed {α : Type} : Option α → Except Fault α
  | some a => .ok a
  | none => .error .malformed

end Charset

/-- A character set in which a character can take several bytes. -/
structure Multibyte where
  /-- Its own name. -/
  name : String
  /-- The other names that it goes by. -/
  aliases : List String
  /-- The code points of a text. -/
  decode : Bytes → Except Charset.Fault (List Nat)

namespace Multibyte

/-- What a step has read. -/
structure Step (State : Type) where
  points : List Nat
  /-- How many bytes it has read behind the first. -/
  width : Nat
  state : State

/-- The code points of a text, read by steps from a state on. So many bytes
at its start have been read already. -/
def run {State : Type} (step : State → Nat → List Nat → Except Charset.Fault (Step State)) :
    State → (ahead : Nat) → List Nat → Except Charset.Fault (List Nat)
  | _, _, [] => .ok []
  | state, ahead + 1, _ :: rest => run step state ahead rest
  | state, 0, b :: rest => do
    let s ← step state b rest
    let points ← run step s.state s.width rest
    return s.points ++ points

/-- A step that needs no state. It tells the code points that it reads and how
many bytes they take behind the first, unless it finds none that are well
formed. -/
def stateless (step : Nat → List Nat → Option (List Nat × Nat)) (_ : Unit) (b : Nat)
    (rest : List Nat) : Except Charset.Fault (Step Unit) :=
  Charset.wellFormed ((step b rest).map fun (points, width) => ⟨points, width, ()⟩)

/-- Reads a text whose steps need no state. -/
def ofSteps (step : Nat → List Nat → Option (List Nat × Nat)) (bytes : Bytes) :
    Except Charset.Fault (List Nat) :=
  run (stateless step) () 0 (bytes.map UInt8.toNat)

/-- The step in a text where a byte of ASCII stands alone and any other is
the first of two. -/
def pairStep (pair? : Nat → Nat → Option Nat) : Nat → List Nat → Option (List Nat × Nat)
  | b, rest =>
    if b < 128 then some ([b], 0)
    else match rest with
      | [] => none
      | c :: _ => (pair? b c).map fun n => ([n], 1)

end Multibyte

end NetSteward
