import InstallCheck.CommandLine.Usage
import InstallCheck.Environment
import InstallCheck.Text.Wrapping

/-!
Pages that explain a command: what it is for, how it is used, and its commands and arguments. A long
page explains each argument on lines of its own; a short one puts the explanations into a column if
there is room for it.
-/
namespace InstallCheck.CommandLine

/-- What a page depends on: how wide lines may be, and the environment that arguments may come from. -/
structure Surroundings where
  width : Nat
  environment : Environment

namespace HelpPage

/-- So many spaces. -/
def spaces (n : Nat) : String := String.ofList (List.replicate n ' ')

/-- Where an explanation begins that is on lines of its own. -/
def ownLineIndent : Nat := 10

/-- What is said in brackets about an argument. -/
def remarks (w : Surroundings) (long : Bool) (a : Argument) : List String :=
  (a.environment.map fun name =>
    "[env: " ++ name ++ "=" ++ (w.environment.get? name).getD "" ++ "]").toList ++
  if long || a.choices.isEmpty then []
  else ["[possible values: " ++ ", ".intercalate (a.choices.map (·.1)) ++ "]"]

/-- The explanation of an argument with the remarks on it. -/
def explanation (w : Surroundings) (long : Bool) (a : Argument) : String :=
  let main := if long then a.longHelp.getD a.help else a.help
  let remarks := (if long then "\n" else " ").intercalate (remarks w long a)
  if remarks = "" then main else main ++ (if long then "\n\n" else " ") ++ remarks

def names (a : Argument) : String :=
  if a.isPositional then "  " ++ a.text a.required
  else
    match a.short, a.long with
    | some short, some _ => "  -" ++ String.singleton short ++ ", " ++ a.text true
    | some _, none => "  " ++ a.text true
    | none, _ => "      " ++ a.text true

/-- The width of an argument by all its names. -/
def nameWidth (a : Argument) : Nat := (names a).length - 2

/-- The words that a value may be, with an explanation of each. -/
def choiceLines (w : Surroundings) (options : List (String × String)) : String :=
  let widest := (options.map (·.1.length)).foldl max 0
  let line (option : String × String) : String :=
    let text := Text.padTo (widest + 2) (option.1 ++ ":") ++ option.2
    "\n" ++ spaces ownLineIndent ++ "- " ++
      Text.indentRest (ownLineIndent + 2) (Text.wrap (w.width - (ownLineIndent + 2)) text)
  "\n\n" ++ spaces ownLineIndent ++ "Possible values:" ++ String.join (options.map line)

/-- A name with its explanation, on lines of its own or in a column. -/
def entry (w : Surroundings) (ownLine : Bool) (column : Nat) (name explanation : String) : String :=
  let indent := if ownLine then ownLineIndent else column
  (if ownLine then name ++ "\n" ++ spaces indent else Text.padTo column name) ++
    Text.indentRest indent (Text.wrap (w.width - indent) explanation)

/-- Whether a column of explanations would leave too little room for one of them. -/
def crowds (w : Surroundings) (column : Nat) (explanation : String) : Bool :=
  column ≤ w.width && 2 * w.width < 5 * column && w.width - column < explanation.length

/-- An argument with its explanation. -/
def argumentEntry (w : Surroundings) (long ownLine : Bool) (column : Nat) (a : Argument) : String :=
  entry w ownLine column (names a) (explanation w long a) ++
    if long && !a.choices.isEmpty then choiceLines w a.choices else ""

/-- A list of arguments with their explanations. -/
def argumentEntries (w : Surroundings) (long : Bool) (arguments : List Argument) : String :=
  let column := (arguments.map nameWidth).foldl max 2 + 4
  let ownLine := long || arguments.any fun a => crowds w column (explanation w long a)
  (if long then "\n\n" else "\n").intercalate
    (arguments.map (argumentEntry w long ownLine column))

/-- By what arguments of one rank are sorted. -/
def sortKey (a : Argument) : String :=
  match a.short, a.long with
  | some c, _ => (String.singleton c.toLower) ++ (if c.isLower then "0" else "1")
  | none, some long => long
  | none, none => a.id

/-- Whether an argument is explained before another one. -/
def precedes (a b : Argument) : Bool :=
  a.rank < b.rank || (a.rank = b.rank && sortKey a ≤ sortKey b)

/-- What a command below is for, and its other names. -/
def commandExplanation (c : Command) : String :=
  c.about ++
    match c.aliases with
    | [] => ""
    | [one] => " [alias: " ++ one ++ "]"
    | several => " [aliases: " ++ ", ".intercalate several ++ "]"

/-- The commands below with what they are for. -/
def commandEntries (w : Surroundings) (s : Site) : String :=
  let entries := (s.command.commands.map fun c => (c.name, commandExplanation c)) ++
    [(helpName, helpAbout)]
  let column := (entries.map (·.1.length)).foldl max 2 + 4
  let ownLine := entries.any fun e => crowds w column e.2
  "\n".intercalate (entries.map fun e => entry w ownLine column ("  " ++ e.1) e.2)

/-- A section of a page, if there is anything in it. -/
def titled (title content : String) : List String :=
  if content = "" then [] else [title ++ ":\n" ++ content]

/-- The page that explains a command; there is a long page only if it says more than the short one. -/
def page (w : Surroundings) (s : Site) (long : Bool) : String :=
  let long := long && Site.hasLongHelp s.command s.arguments
  let about := if long then s.command.longAbout.getD s.command.about else s.command.about
  let sections :=
    (if s.hasCommands then titled "Commands" (commandEntries w s) else []) ++
      titled "Arguments" (argumentEntries w long s.positionals) ++
      titled "Options" (argumentEntries w long (s.named.mergeSort precedes))
  let examples :=
    if s.command.examples = "" then [] else [Text.wrap w.width s.command.examples]
  "\n\n".intercalate
    ([Text.wrap w.width about, Usage.line s []] ++ sections ++ examples) ++ "\n"

end HelpPage

end InstallCheck.CommandLine
