import InstallCheck.CommandLine.Interface
import InstallCheck.CommandLine.Matching
import InstallCheck.Logging.Event

/-!
What the user asks for: what is to be done, and how.
-/
namespace InstallCheck.CommandLine

/-- What is to be done. -/
inductive Action
  /-- Check an install config, against recordings of an account unless it is offline. -/
  | validate (config : String) (recordings : List String) (offline : Bool)
  /-- Tell what a cluster has to be torn down by. -/
  | metadata (config : String)
  /-- List the regions that are allowed. -/
  | regions
  /-- List the DNS zones that an account has. -/
  | zones (recordings : List String)
  /-- Write the default settings, into the current directory or for the user. -/
  | init (here force : Bool)
  /-- Tell one setting. -/
  | setting (key : String)
  /-- Tell all settings. -/
  | settings
  /-- Tell where the settings are. -/
  | settingsPath
  deriving DecidableEq, Repr

/-- What the user asks for. -/
structure Request where
  verbosity : Nat
  quiet : Bool
  noColor : Bool
  settingsFile : Option String
  format : Option Output.Format
  action : Action
  deriving DecidableEq, Repr

namespace Matches

/-- What was found for every command, outermost first. -/
def levels : Matches → List (String × List Found)
  | command name found none => [(name, found)]
  | command name found (some below) => (name, found) :: below.levels

/-- An argument of two levels: what is found further in goes first, unless it was only found in the
environment. -/
def prefer (outer : Option Found) (inner : Option Found) : Option Found :=
  match outer, inner with
  | some a, some b => if a.origin = .line && b.origin = .environment then some a else some b
  | some a, none => some a
  | none, b => b

/-- An argument that is shared by all commands. -/
def shared? (levels : List (String × List Found)) (a : Argument) : Option Found :=
  levels.foldl (fun found level => prefer found (level.2.find? (·.id = a.id))) none

/-- The values of an argument. -/
def valuesOf (found : List Found) (a : Argument) : List String :=
  ((found.find? (·.id = a.id)).map (·.values)).getD []

/-- The value of an argument. -/
def valueOf (found : List Found) (a : Argument) : String := (valuesOf found a).headD ""

def gives (found : List Found) (a : Argument) : Bool := found.any (·.id = a.id)

end Matches

namespace Request

open Matches Interface

/-- Whether the value of an environment variable stands for no. -/
def isNo (value : String) : Bool :=
  ["", "n", "no", "f", "false", "off", "0"].contains value.toLower

/-- What is to be done, by what was found for the commands below the outermost. -/
def actionOf? : List (String × List Found) → Option Action
  | [("validate", found)] =>
    some (.validate (valueOf found installConfig) (valuesOf found cloud) (gives found offline))
  | [("metadata", found)] => some (.metadata (valueOf found installConfig))
  | [("regions", _)] => some .regions
  | [("zones", found)] => some (.zones (valuesOf found cloud))
  | [("init", found)] => some (.init (gives found here) (gives found force))
  | [("config", _), ("get", found)] => some (.setting (valueOf found key))
  | [("config", _), ("list", _)] => some .settings
  | [("config", _), ("path", _)] => some .settingsPath
  | _ => none

/-- What the user asks for, by what was found. -/
def ofMatches? (m : Matches) : Option Request := do
  let action ← actionOf? (m.levels.drop 1)
  let values (a : Argument) : List String := ((shared? m.levels a).map (·.values)).getD []
  return {
    verbosity := (values Interface.verbose).length
    quiet := !(values Interface.quiet).isEmpty
    noColor := (values Interface.noColor).any (!isNo ·)
    settingsFile := (values Interface.settingsFile).head?
    format := (values Interface.outputFormat).head? >>= Output.Format.ofName?
    action }

/-- What the user asks for with the words of a command line. -/
def ofWords (env : Environment) (words : List String) : Except Stop Request := do
  let top := Site.top program
  let m ← matchWords env words top .start
  match ofMatches? m with
  | some request => return request
  | none => throw (.nothing top)

/-- How important an event has to be to be logged. -/
def level (r : Request) : Logging.Level :=
  if r.quiet then .error
  else
    match r.verbosity with
    | 0 => .warn
    | 1 => .info
    | 2 => .debug
    | _ => .trace

end Request

end InstallCheck.CommandLine
