import NetSteward.Json.Access
import NetSteward.Settings
import NetSteward.Text.Digit
/-!
# Settings on a command line

A command line is a list of words. A word that names an option says which
setting is set, and the value is attached to it by an equals sign or is
the next word. Of two values for one setting the later one counts. A line
with an option that is not known or has no value, or with a word that
belongs to no option, is refused, and so is one that asks for help.
-/

namespace NetSteward

namespace Settings

/-- How a command line is read. -/
structure CommandLine where
  /-- The characters that can start an option. -/
  flags : List Char
  /-- Whether the case of an option counts. -/
  isExact : Bool
  /-- What stands before the name of a setting. -/
  lead : String
  /-- Whether the parts of a name are joined by hyphens. -/
  hyphenates : Bool
  /-- Other names that options go by. -/
  shortcuts : Keyed (List String)
  /-- The value that stands for null. -/
  nullWord : String
  /-- Whether words that belong to no option are passed over. -/
  skipsOthers : Bool
  /-- Whether the program ends when a line is refused. -/
  isFinal : Bool

namespace CommandLine

/-- What an option asks for. -/
inductive Request
  | set (name : String)
  | help

/-- What a word of a command line is. -/
inductive Word
  /-- A value, or a word of no use. -/
  | plain (value : Json)
  /-- An option, perhaps with a value attached. -/
  | option (request : Request) (attached : Option String)
  /-- An option that is not known. -/
  | unknown
  /-- The word after which there are no options. -/
  | bar

/-- Why a line is refused. -/
inductive Refusal
  | unfit
  /-- The line asks for help instead. -/
  | helped

/-! ## Options -/

/-- The word that names an option: a name of one character has one flag
before it, any other name two. -/
def flagged (l : CommandLine) (name : String) : String :=
  let flags := (l.flags ++ l.flags).take (if name.length = 1 then 1 else 2)
  String.ofList flags ++ name

/-- The name of the option for a setting. -/
def optionName (l : CommandLine) (setting : String) : String :=
  l.lead ++ (if l.hyphenates then setting.map fun c => if c = '_' then '-' else c else setting)

/-- The options, each with what it asks for. -/
def options (l : CommandLine) : Keyed Request :=
  [(l.flagged "h", .help), (l.flagged "help", .help)] ++ names.flatMap fun setting =>
    let name := l.optionName setting
    (name :: (Keyed.get? l.shortcuts name).getD []).map fun name =>
      (l.flagged name, .set setting)

/-! ## Words -/

/-- A word whose option is in lower case. An option that is changed so
goes up to the end of its line. -/
def lowered (l : CommandLine) (cs : List Char) : List Char :=
  let isPart (c : Char) : Bool := !Text.isBlank c && c != '='
  let option := cs.takeWhile isPart
  match cs with
  | c :: _ =>
    if l.flags.contains c && 1 < option.length then
      (lowerName (String.ofList option)).toList ++ (cs.dropWhile isPart).takeWhile (· != '\n')
    else cs
  | [] => []

/-- Whether a text is a negative number, with or without a point. -/
def isNegative (cs : List Char) : Bool :=
  let isDigit (c : Char) : Bool := (Text.decimalDigit? c).isSome
  match cs with
  | '-' :: number =>
    let number := if number.getLast? = some '\n' then number.dropLast else number
    match Text.splitFirst? '.' number with
    | some (whole, fraction) =>
      whole.all isDigit && fraction.all isDigit && !fraction.isEmpty
    | none => number.all isDigit && !number.isEmpty
  | _ => false

/-- The option that a word names with a value attached to it by an equals
sign. -/
def assignment? (l : CommandLine) (cs : List Char) : Option Word :=
  (Text.splitFirst? '=' cs).bind fun (name, value) =>
    (Keyed.get? l.options (String.ofList name)).map fun request =>
      .option request (some (String.ofList value))

/-- The option with one flag that starts a word. What follows it is its
value, or other options with it if it is the one for help. -/
def shortOption? (l : CommandLine) (cs : List Char) : Option Word :=
  if ((cs.drop 1).take 1).any l.flags.contains then none
  else (Keyed.get? l.options (String.ofList (cs.take 2))).map fun
    | .set name => .option (.set name) (some (String.ofList (cs.drop 2)))
    | .help => .option .help none

/-- What a text is as a word. -/
def wordOfText (l : CommandLine) (cs : List Char) : Word :=
  let text := String.ofList cs
  if !(cs.take 1).any l.flags.contains then .plain (.str text)
  else match Keyed.get? l.options text with
    | some request => .option request none
    | none =>
      if cs.length = 1 then .plain (.str text)
      else match (l.assignment? cs).or (l.shortOption? cs) with
        | some word => word
        | none =>
          if isNegative cs || cs.contains ' ' then .plain (.str text) else .unknown

/-- The words that values are. -/
def words (l : CommandLine) (afterBar : Bool) : List Json → Except Mismatch (List Word)
  | [] => .ok []
  | .str s :: rest => do
    let cs := if l.isExact then s.toList else l.lowered s.toList
    let isBar := !afterBar && cs = ['-', '-']
    let word :=
      if isBar then .bar
      else if afterBar then .plain (.str (String.ofList cs))
      else l.wordOfText cs
    return word :: (← words l (afterBar || isBar) rest)
  | other :: rest =>
    if other.isGiven then .error .notText
    else do
      return .plain (if l.isExact then other else .str "") :: (← words l afterBar rest)

/-! ## Lines -/

/-- The values that words give to settings, and whether a word belongs to
no option. -/
def valuesOf : List Word → Except Refusal (List (String × Json) × Bool)
  | [] => .ok ([], false)
  | .option (.set name) (some value) :: rest =>
    (valuesOf rest).map fun (values, others) => ((name, .str value) :: values, others)
  | .option (.set name) none :: .plain value :: rest =>
    (valuesOf rest).map fun (values, others) => ((name, value) :: values, others)
  | .option (.set _) none :: _ => .error .unfit
  | .option .help none :: _ => .error .helped
  | .option .help (some _) :: _ => .error .unfit
  | _ :: rest => (valuesOf rest).map fun (values, _) => (values, true)

/-- What comes of a line that is refused. -/
def fault (l : CommandLine) : Refusal → Mismatch
  | .unfit => if l.isFinal then .ended else .unfitSource
  | .helped => .ended

/-- **The settings on a command line.** -/
def read (l : CommandLine) (line : List Json) : Except Mismatch (Keyed Json) := do
  match valuesOf (← l.words false line) with
  | .error refusal => .error (l.fault refusal)
  | .ok (values, others) =>
    if others && !l.skipsOthers then .error (l.fault .unfit)
    else return Keyed.ofPairs (values.map fun e =>
      (e.1, if e.2.isStr l.nullWord then .null else e.2))

end CommandLine

end Settings

end NetSteward
