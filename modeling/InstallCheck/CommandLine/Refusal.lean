import InstallCheck.CommandLine.Usage

/-!
Command lines that make no sense, and what is said about them.
-/
namespace InstallCheck.CommandLine

/-- What is wrong with a command line. -/
inductive Fault
  /-- An argument is given twice. -/
  | repeated (argument : String)
  /-- An argument is given together with some that it does not go with. -/
  | conflict (argument : String) (others : List String)
  /-- An argument is given without a value. -/
  | noValue (argument : String) (choices : List String)
  /-- A value is not one of the words it may be. -/
  | notAChoice (value argument : String) (choices : List String) (similar : Option String)
  /-- A value is given to an argument that takes none. -/
  | unexpectedValue (value argument : String)
  /-- There is no such argument. -/
  | unknownArgument (argument : String) (tips : List String)
  /-- There is no such command. -/
  | unknownCommand (word : String) (similar : List String)
  /-- Required arguments are missing. -/
  | missingArguments (arguments : List String)
  /-- A command is missing. -/
  | missingCommand (name : String) (commands : List String)
  deriving DecidableEq, Repr

namespace Fault

def name : Fault → String
  | repeated _ | conflict .. => "ArgumentConflict"
  | noValue .. | notAChoice .. => "InvalidValue"
  | unexpectedValue .. => "TooManyValues"
  | unknownArgument .. => "UnknownArgument"
  | unknownCommand .. => "InvalidSubcommand"
  | missingArguments _ => "MissingRequiredArgument"
  | missingCommand .. => "MissingSubcommand"

/-- Words in brackets, after a title. -/
def bracketed (title : String) (words : List String) : String :=
  if words.isEmpty then "" else "\n  [" ++ title ++ ": " ++ ", ".intercalate words ++ "]"

/-- Things of which one may have been meant. -/
def similarTip (kind : String) : List String → List String
  | [] => []
  | [one] => [s!"a similar {kind} exists: '{one}'"]
  | several =>
    [s!"some similar {kind}s exist: " ++ ", ".intercalate (several.map fun s => "'" ++ s ++ "'")]

/-- What a fault is. -/
def message : Fault → String
  | repeated argument => s!"the argument '{argument}' cannot be used multiple times"
  | conflict argument [other] => s!"the argument '{argument}' cannot be used with '{other}'"
  | conflict argument others =>
    s!"the argument '{argument}' cannot be used with:" ++
      String.join (others.map fun o => "\n  " ++ o)
  | noValue argument choices =>
    s!"a value is required for '{argument}' but none was supplied" ++
      bracketed "possible values" choices
  | notAChoice value argument choices _ =>
    s!"invalid value '{value}' for '{argument}'" ++ bracketed "possible values" choices
  | unexpectedValue value argument =>
    s!"unexpected value '{value}' for '{argument}' found; no more were expected"
  | unknownArgument argument _ => s!"unexpected argument '{argument}' found"
  | unknownCommand word _ => s!"unrecognized subcommand '{word}'"
  | missingArguments arguments =>
    "the following required arguments were not provided:" ++
      String.join (arguments.map fun a => "\n  " ++ a)
  | missingCommand name commands =>
    s!"'{name}' requires a subcommand but one was not provided" ++ bracketed "subcommands" commands

/-- What may have been meant. -/
def tips : Fault → List String
  | notAChoice _ _ _ similar => similarTip "value" similar.toList
  | unknownArgument _ tips => tips
  | unknownCommand _ similar => similarTip "subcommand" similar
  | _ => []

end Fault

/-- A fault, and how the command should be used if that is worth saying. -/
structure Refusal where
  fault : Fault
  usage : Option String
  /-- Whether the command can be asked for help. -/
  hasHelp : Bool
  deriving DecidableEq, Repr

namespace Refusal

/-- What is said about a command line that makes no sense. -/
def text (r : Refusal) : String :=
  "error: " ++ r.fault.message ++
    (if r.fault.tips.isEmpty then ""
    else "\n" ++ String.join (r.fault.tips.map fun tip => "\n  tip: " ++ tip)) ++
    (match r.usage with
      | some usage => "\n\n" ++ usage
      | none => "") ++
    (if r.hasHelp then "\n\nFor more information, try '--help'.\n" else "\n")

end Refusal

end InstallCheck.CommandLine
