import NetSteward.Schema.Unreadable
import NetSteward.Settings.CommandLine
/-!
# Settings from arguments

Settings can be given as named arguments. Other arguments are options:
they say where else settings are to be read from. Of these sources only a
command line holds anything, and what stands there comes before the
arguments; but the options have to serve. In place of all sources, others
can be named, which an argument can do only by naming none.
-/

namespace NetSteward

namespace Settings

/-- The names of the options. -/
def sourceOptions : List String := [
  "_case_sensitive", "_nested_model_default_partial_update", "_env_prefix",
  "_env_prefix_target", "_env_file_encoding", "_env_ignore_empty", "_env_nested_delimiter",
  "_env_nested_max_split", "_env_parse_none_str", "_env_parse_enums", "_secrets_dir",
  "_build_sources", "_cli_prog_name", "_cli_parse_args", "_cli_settings_source",
  "_cli_parse_none_str", "_cli_hide_none_type", "_cli_avoid_json", "_cli_enforce_required",
  "_cli_use_class_docs_for_groups", "_cli_exit_on_error", "_cli_prefix",
  "_cli_flag_prefix_char", "_cli_implicit_flags", "_cli_ignore_unknown_args",
  "_cli_kebab_case", "_cli_shortcuts", "_cli_show_env_vars"]

/-- Whether no argument may have a name: it is the one of the file that
is never read, or refers to the settings themselves. -/
def isTaken (name : String) : Bool :=
  name = "_env_file" ||
    ("__".toList.isPrefixOf name.toList && "_self__".toList.isSuffixOf name.toList)

/-- The value of an option, if it is not null. -/
def option? (arguments : Keyed Json) (name : String) : Option Json :=
  (Keyed.get? arguments name).filter fun j => !j.isNull

/-- Whether an option is given. -/
def isSet (arguments : Keyed Json) (name : String) : Bool :=
  ((Keyed.get? arguments name).getD .null).isGiven

/-! ## Whether the options serve -/

/-- A number to count with, or nothing. -/
def countOption (j : Json) : Except Mismatch Unit :=
  if !j.isGiven || j.number?.isSome then .ok () else .error .notNumeric

/-- A value that has a length, as what stands before names must have. -/
def sizedOption (j : Json) : Except Mismatch Unit :=
  if j.number?.isSome then .error .notIterable else .ok ()

/-- What stands before the names of variables. -/
def leadOption : Json → Except Mismatch Unit
  | .arr _ => .error .unfitSource
  | .obj _ => .error .unfitSource
  | j => sizedOption j

/-- The folders with secrets: one or more paths. -/
def foldersOption : Json → Except Mismatch Unit
  | .null => .ok ()
  | .str _ => .ok ()
  | folders => do
    if (← folders.iterate).all fun | .str _ => true | _ => false then return ()
    else .error .notText

/-! ## The command line -/

/-- Whether a text is made of words with points between them. Neither the
first nor the last of them may be empty. -/
def isDottedName (cs : List Char) : Bool :=
  let isWordChar (c : Char) : Bool := c.isAlphanum || c == '_' || !Text.isAscii c
  cs.head? != some '.' && cs.getLast? != some '.' &&
    match cs.filter (· != '.') with
    | [] => false
    | c :: rest => isWordChar c && !c.isDigit && rest.all isWordChar

/-- What stands before the names of options. -/
def optionLead : Json → Except Mismatch String
  | .null => .ok ""
  | .str s =>
    if s.isEmpty then .ok ""
    else if isDottedName s.toList then .ok (s ++ ".")
    else .error .unfitSource
  | j => if j.isGiven then .error .noMembers else .error .notIterable

/-- The characters that can start an option. -/
def optionFlags : Json → Except Mismatch (List Char)
  | .null => .ok ['-']
  | .str s => if s.isEmpty then .error .malformed else .ok s.toList
  | _ => .error .notText

/-- Other names for an option. -/
def shortcutNames : Json → Except Mismatch (List String)
  | .str s => .ok [s]
  | j => do
    return (← j.iterate).filterMap fun
      | .str s => some s
      | _ => none

/-- Other names for options. -/
def shortcutOption : Json → Except Mismatch (Keyed (List String))
  | .obj members => members.mapM fun e => do return (e.1, ← shortcutNames e.2)
  | j => if j.isGiven then .error .noMembers else .ok []

/-- The value that stands for null on a command line. -/
def nullWordOf (arguments : Keyed Json) : String :=
  let own := Keyed.get? arguments "_cli_parse_none_str"
  let shared := (Keyed.get? arguments "_env_parse_none_str").filter Json.isGiven
  match (shared.or own).filter Json.isGiven, Keyed.get? arguments "_cli_avoid_json" with
  | some (.str s), _ => s
  | _, some (.bool true) => "None"
  | _, _ => "null"

/-- How the command line is read. -/
def commandLineOf (arguments : Keyed Json) : Except Mismatch CommandLine := do
  let option (name : String) : Json := (Keyed.get? arguments name).getD .null
  let lead ← optionLead (option "_cli_prefix")
  let flags ← optionFlags (option "_cli_flag_prefix_char")
  let shortcuts ← shortcutOption (option "_cli_shortcuts")
  return {
    flags := flags
    isExact := isSet arguments "_case_sensitive"
    lead := lead
    hyphenates := isSet arguments "_cli_kebab_case"
    shortcuts := shortcuts
    nullWord := nullWordOf arguments
    skipsOthers := isSet arguments "_cli_ignore_unknown_args"
    isFinal := ((option? arguments "_cli_exit_on_error").map Json.isGiven).getD true }

/-- The settings on the command line, if there is one. The word true
stands for a line without words. -/
def commanded (arguments : Keyed Json) : Except Mismatch (Keyed Json) :=
  match option? arguments "_cli_parse_args" with
  | none => .ok []
  | some given => do
    let line ← commandLineOf arguments
    match given with
    | .arr words => line.read words
    | .bool _ => return []
    | j => if j.same (.int 0) then return [] else .error .unfitSource

/-! ## The settings -/

/-- The settings that named arguments give, checked, with those of the
command line before them. The name of a setting is read in any case, and
of two arguments for one setting the first counts; no name is admitted
that is neither that of a setting nor that of an option. -/
def checkArguments (commands arguments : Keyed Json) : Checked Settings :=
  let (known, others) := arguments.partition fun e => names.contains (lowerName e.1)
  let unknown := others.filter fun e => !sourceOptions.contains e.1
  let issues := unknown.map fun e => Issue.mk .unknownMember [.member e.1]
  let rest : Checked Unit := if issues.isEmpty then .ok () else .failed issues
  (fun s _ => s) <$> check (commands ++ known.map fun e => (lowerName e.1, e.2)) <*> rest

/-- The settings that other sources give: there have to be two parts, and
the first must hold no source. -/
def ofOtherSources (parts : Json) : Except Mismatch Settings := do
  match ← parts.iterate with
  | [sources, _] => if sources.isGiven then .error .notIterable else return default
  | _ => .error .malformed

/-- **The settings that arguments give.** -/
def ofArguments : Json → Read Settings
  | .obj arguments =>
    if arguments.any fun e => isTaken e.1 then .error (.shape .unfitArguments)
    else match option? arguments "_build_sources" with
      | some parts => shaped (ofOtherSources parts)
      | none => do
        let option (name : String) : Json := (Keyed.get? arguments name).getD .null
        shaped (countOption (option "_env_nested_max_split"))
        shaped (sizedOption (option "_env_prefix"))
        let commands ← shaped (commanded arguments)
        shaped (leadOption (option "_env_prefix"))
        shaped (foldersOption (option "_secrets_dir"))
        checked (checkArguments commands arguments)
  | _ => .error (.shape .unfitArguments)

end Settings

end NetSteward
