import InstallCheck.CommandLine.HelpPage
import InstallCheck.CommandLine.Matching
import InstallCheck.Decimal.Reading

/-!
What is said where a command line is not carried out. What was asked for is an answer; anything else is
a complaint.
-/
namespace InstallCheck.CommandLine

namespace Surroundings

/-- How wide lines may be where nothing is said about it. -/
def usualWidth : Nat := 100

/-- The surroundings that an environment tells of. -/
def ofEnvironment (env : Environment) : Surroundings :=
  ⟨((env.get? "COLUMNS").bind Decimal.natural?).getD usualWidth, env⟩

end Surroundings

namespace Stop

def name : Stop → String
  | refused r => r.fault.name
  | help .. => "DisplayHelp"
  | nothing _ => "DisplayHelpOnMissingArgumentOrSubcommand"
  | version .. => "DisplayVersion"

/-- Whether what is said was asked for. -/
def isAnswer : Stop → Bool
  | help .. | version .. => true
  | refused _ | nothing _ => false

/-- The exit code of the program. -/
def exitCode (stop : Stop) : Nat := if stop.isAnswer then 0 else 2

/-- What is said. -/
def text (w : Surroundings) : Stop → String
  | refused r => r.text
  | help s long => HelpPage.page w s long
  | nothing s => HelpPage.page w s false
  | version name number => name ++ " " ++ number ++ "\n"

end Stop

end InstallCheck.CommandLine
