/-!
Descriptions of command lines: commands with arguments and further commands below them. Arguments that
are marked as shared are understood by every command below as well.
-/
namespace InstallCheck.CommandLine

/-- What giving an argument does. -/
inductive Effect
  /-- It is given or not. -/
  | flag
  /-- It counts how often it is given. -/
  | count
  /-- It takes one value. -/
  | one
  /-- It takes one or more values each time it is given. -/
  | many
  /-- It asks for help. -/
  | help
  /-- It asks for the version. -/
  | version
  deriving DecidableEq, Repr

/-- What the values of an argument may be. -/
inductive Values
  | any
  /-- Any value but the empty one. -/
  | path
  /-- One of the given words, which are explained. -/
  | choice (options : List (String × String))
  deriving DecidableEq, Repr

/-- An argument. One with neither a short nor a long name is given by its position. -/
structure Argument where
  id : String
  short : Option Char := none
  long : Option String := none
  effect : Effect := .flag
  /-- What stands for a value in texts about the argument. -/
  valueName : String := ""
  values : Values := .any
  /-- Whether all commands below understand the argument. -/
  shared : Bool := false
  required : Bool := false
  /-- An argument without which this one is required. -/
  requiredUnless : Option String := none
  /-- Arguments that cannot be given together with this one. -/
  conflicts : List String := []
  /-- An environment variable that stands in for the argument. -/
  environment : Option String := none
  help : String
  /-- A longer explanation, if there is one. -/
  longHelp : Option String := none
  /-- Where the argument stands among those that are explained. -/
  rank : Nat := 0
  deriving DecidableEq, Repr

structure Command where
  name : String
  aliases : List String := []
  about : String
  longAbout : Option String := none
  /-- What is said after the explanation of the arguments. -/
  examples : String := ""
  version : Option String := none
  arguments : List Argument := []
  /-- Sets of arguments that are named together. -/
  groups : List (String × List String) := []
  commands : List Command := []
  deriving Repr

namespace Argument

def takesValues (a : Argument) : Bool := a.effect = .one || a.effect = .many

/-- Whether an argument is given by its position. -/
def isPositional (a : Argument) : Bool := a.short.isNone && a.long.isNone

/-- The words among which a value has to be. -/
def choices (a : Argument) : List (String × String) :=
  match a.values with
  | .choice options => options
  | _ => []

/-- What stands for the values of an argument. -/
def valueText (a : Argument) (required : Bool) : String :=
  (if a.isPositional && !required then "[" ++ a.valueName ++ "]" else "<" ++ a.valueName ++ ">") ++
    (if a.effect = .many then "..." else "")

/-- An argument with what stands for its values. -/
def text (a : Argument) (required : Bool) : String :=
  let name := match a.long, a.short with
    | some long, _ => "--" ++ long
    | none, some short => "-" ++ String.singleton short
    | none, none => ""
  if a.isPositional then a.valueText required
  else if a.takesValues then name ++ " " ++ a.valueText true
  else if a.effect = .count then name ++ "..."
  else name

/-- An argument as it is named in a set. -/
def memberText (a : Argument) : String := if a.isPositional then a.valueName else a.text true

end Argument

/-- The argument that asks for help; the two names of it give more and less of it. -/
def helpArgument (hasLong : Bool) : Argument where
  id := "help"
  short := some 'h'
  long := some "help"
  effect := .help
  help := if hasLong then "Print help (see more with '--help')" else "Print help"
  longHelp := if hasLong then some "Print help (see a summary with '-h')" else none
  rank := 999

/-- The argument that asks for the version. -/
def versionArgument : Argument :=
  { helpArgument false with
    id := "version", short := some 'V', long := some "version", effect := .version
    help := "Print version" }

def helpName : String := "help"

/-- What the command that explains the other ones is for. -/
def helpAbout : String := "Print this message or the help of the given subcommand(s)"

/-- A command where it is used: with the arguments that it shares with the commands above, and the names
of all of them. -/
structure Site where
  command : Command
  arguments : List Argument
  /-- The names of the commands that lead here. -/
  name : String
  deriving Repr

namespace Site

/-- Whether there is more to say about some part of a command than the short help says. -/
def hasLongHelp (c : Command) (arguments : List Argument) : Bool :=
  c.longAbout.isSome || arguments.any fun a => a.longHelp.isSome || !a.choices.isEmpty

/-- A command with all arguments it understands. -/
def ofCommand (c : Command) (inherited : List Argument) (name : String) : Site :=
  let own := c.arguments ++ inherited.filter fun a => !c.arguments.any (·.id = a.id)
  ⟨c, own ++ [helpArgument (hasLongHelp c own)] ++ (c.version.map fun _ => versionArgument).toList, name⟩

/-- The outermost command. -/
def top (c : Command) : Site := ofCommand c [] c.name

/-- A command below, by its name or another name of it. -/
def find? (s : Site) (word : String) : Option Command :=
  s.command.commands.find? fun c => c.name = word || c.aliases.contains word

/-- A command below, where it is used. -/
def below (s : Site) (c : Command) : Site :=
  ofCommand c (s.arguments.filter (·.shared)) (s.name ++ " " ++ c.name)

/-- The command that explains those below. -/
def explainer (s : Site) : Site :=
  let topics : Argument :=
    { id := "subcommand", effect := .many, valueName := "COMMAND"
      help := "Print help for the subcommand(s)" }
  ⟨{ name := helpName, about := helpAbout, arguments := [topics] }, [topics], s.name ++ " " ++ helpName⟩

/-- Whether a command can be asked for help. -/
def hasHelp (s : Site) : Bool := s.arguments.any (·.effect = .help)

/-- Whether there are commands below; then one of them has to be given. -/
def hasCommands (s : Site) : Bool := !s.command.commands.isEmpty

/-- Every name of a command below, and that of help. -/
def commandNames (s : Site) : List String :=
  if s.hasCommands then
    (s.command.commands.flatMap fun c => c.name :: c.aliases) ++ [helpName]
  else []

def argument? (s : Site) (id : String) : Option Argument := s.arguments.find? (·.id = id)

/-- The arguments that are given by their position, in order. -/
def positionals (s : Site) : List Argument := s.arguments.filter (·.isPositional)

/-- The arguments that are given by name. -/
def named (s : Site) : List Argument := s.arguments.filter (!·.isPositional)

def long? (s : Site) (name : String) : Option Argument := s.arguments.find? (·.long = some name)

def short? (s : Site) (name : Char) : Option Argument := s.arguments.find? (·.short = some name)

/-- The sets that an argument belongs to. -/
def groupsOf (s : Site) (a : Argument) : List String :=
  (s.command.groups.filter fun g => g.2.contains a.id).map (·.1)

/-- The arguments of a set. -/
def members (s : Site) (group : String) : List Argument :=
  ((s.command.groups.lookup group).getD []).filterMap s.argument?

end Site

end InstallCheck.CommandLine
