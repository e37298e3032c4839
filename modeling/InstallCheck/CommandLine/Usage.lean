import InstallCheck.CommandLine.Grammar

/-!
One-line summaries of how a command is used: in general, or with the arguments that have been used.
-/
namespace InstallCheck.CommandLine.Usage

/-- A list without later repetitions. -/
def distinct (items : List String) : List String :=
  items.foldl (fun found s => if found.contains s then found else found ++ [s]) []

/-- The parts of a summary that stand for the required arguments and for others, which may be sets of
arguments: options, then sets, then positions. -/
def parts (s : Site) (others : List String) : List String :=
  let required := (s.arguments.filter (·.required)).map (·.id)
  let all := required ++ others
  let groups := all.filter fun id => (s.argument? id).isNone
  let members := groups.flatMap fun g => (s.members g).map (·.id)
  let shown := (all.filterMap s.argument?).filter fun a => !members.contains a.id
  let groupText (g : String) : String := "<" ++ "|".intercalate ((s.members g).map (·.memberText)) ++ ">"
  distinct ((shown.filter (!·.isPositional)).map (·.text true)) ++
    distinct (groups.map groupText) ++
    distinct ((s.positionals.filter fun p => shown.any (·.id = p.id)).map (·.text true))

/-- What stands for a command below. -/
def commandPart (s : Site) : List String := if s.hasCommands then ["<COMMAND>"] else []

/-- Whether some argument is optional and not about help. -/
def hasOptions (s : Site) : Bool :=
  s.named.any fun a => !a.required && a.effect ≠ .help && a.effect ≠ .version

/-- What stands for the arguments that may be given by their position. -/
def optionalParts (s : Site) : List String :=
  (s.positionals.filter (!·.required)).map (·.text false)

/-- The summary of a command with the arguments that have been used, or in general if none have. -/
def summary (s : Site) (used : List String) : String :=
  let options := if used.isEmpty && hasOptions s then ["[OPTIONS]"] else []
  let optional := if used.isEmpty then optionalParts s else []
  " ".intercalate ([s.name] ++ options ++ parts s used ++ optional ++ commandPart s)

/-- The summary with its title. -/
def line (s : Site) (used : List String) : String := "Usage: " ++ summary s used

end InstallCheck.CommandLine.Usage
