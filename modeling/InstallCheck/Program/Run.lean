import InstallCheck.CommandLine.Request
import InstallCheck.CommandLine.Stop
import InstallCheck.Environment.File
import InstallCheck.Logging.Filter
import InstallCheck.Logging.Line
import InstallCheck.Program.Configure
import InstallCheck.Program.Listing
import InstallCheck.Program.Validate

/-!
A whole run of the program: the command line is read, then the settings, and then the command is carried
out. A run depends only on its words, the environment, the files, the time, its identifier and whether its
results go to a terminal.
-/
namespace InstallCheck.Program

open CommandLine (Action Request Stop Surroundings)
open Files (Disk)
open Logging (Event Filter Span)
open Output (Writer)

def target : String := "preflight"

/-- The activity of carrying out a command. -/
def runSpan : Span := ⟨target, "run", []⟩

/-- Carries out what is asked for. -/
def perform (m : Moment) (env : Environment) (s : Settings) (w : Writer) (r : Request) : Task Unit :=
  match r.action with
  | .validate config recordings offline => validate m s w ⟨config, recordings, offline⟩
  | .metadata config => metadata config
  | .regions => regions s w
  | .zones recordings => zones s w recordings
  | .init here force => init env w r.settingsFile here force
  | .setting key => setting s w key
  | .settings => settings s w
  | .settingsPath => settingsPath env w r.settingsFile

/-- The settings of a run. -/
def loadSettings (env : Environment) (r : Request) : Task Settings := do
  let d ← Task.disk
  let path := r.settingsFile.getD (Settings.usualFile env d)
  Task.log (.plain "preflight::config" .debug "loading configuration"
    [("path", path), ("required", Settings.switchText r.settingsFile.isSome)])
  match Settings.load env d r.settingsFile with
  | .ok s => return s
  | .error e => throw (.settings e.text [e.text])

/-- How a run writes, by whether its results go to a terminal. -/
def writerOf (s : Settings) (r : Request) (terminal : Bool := false) : Writer :=
  .ofRequest r.format s.format r.quiet r.noColor s.noColor terminal

/-- Everything that a run does once it is known what is asked for. -/
def carryOut (m : Moment) (env : Environment) (r : Request) (terminal : Bool := false) :
    Task Unit := do
  Task.log (.plain target .debug "CLI started"
    [("verbose", toString r.verbosity), ("quiet", Settings.switchText r.quiet),
      ("no_color", Settings.switchText r.noColor)])
  let s ← loadSettings env r
  Task.during runSpan (perform m env s (writerOf s r terminal) r)
  Task.log (.plain target .info "Preflight completed successfully" [])

/-- The events that report on an error. -/
def failureEvents (e : CommandError) : List Event :=
  let (level, title) : Logging.Level × String := match e.category with
    | .user => (.warn, "User error: ")
    | .notFound => (.warn, "Not found: ")
    | .configuration => (.error, "Configuration error: ")
    | .internal => (.error, "Internal error: ")
  let event (level : Logging.Level) (message : String) : Event :=
    .plain "preflight::error" level message []
  event level (title ++ e.text) ::
    (e.causes.take 1).map fun cause => event .debug ("Caused by: " ++ cause)

/-- What has come of a run: the error it ended with if it failed, and what it did. -/
structure Ending where
  request : Request
  failure : Option CommandError
  trail : Trail

namespace Ending

/-- The exit code of the program. -/
def exitCode (e : Ending) : Nat := (e.failure.map (·.exitCode)).getD 0

/-- All that was written as results. -/
def output (e : Ending) : String := String.join e.trail.written

/-- Whether a failure is explained in detail. -/
def isDetailed (e : Ending) : Bool := 0 < e.request.verbosity

/-- What is said about the failure, if the run failed. -/
def complaint (e : Ending) : String := (e.failure.map (·.plain e.isDetailed)).getD ""

/-- Everything that happened, with the failure at the end. -/
def events (e : Ending) : List Event := e.trail.events ++ (e.failure.map failureEvents).getD []

/-- The log lines of what happened, at a time. -/
def log (e : Ending) (f : Filter) (time : String) : List String :=
  (e.events.filterMap f.admit?).map (·.line time)

end Ending

/-- What comes of a run for which it is known what is asked for. -/
def endingOf (m : Moment) (env : Environment) (d : Disk) (r : Request) (terminal : Bool := false) :
    Ending :=
  match (carryOut m env r terminal).runOn (.start d) with
  | (.ok (), trail) => ⟨r, none, trail⟩
  | (.error e, trail) => ⟨r, some e, trail⟩

/-- What comes of a run with the words of a command line. -/
def run (m : Moment) (env : Environment) (d : Disk) (words : List String) (terminal : Bool := false) :
    Except Stop Ending :=
  (Request.ofWords env words).map (endingOf m env d · terminal)

/-- What is logged: by the environment, or else by what is asked for. -/
def filterOf (env : Environment) (r : Request) : Filter := .choose (env.get? "RUST_LOG") r.level

/-- The paths of the files that a run may read or write. -/
def pathsOf (env : Environment) (r : Request) : List String :=
  let settings := r.settingsFile.toList ++ [Settings.localFile, Settings.userFile env]
  let extended := settings.map (Files.Path.extended · ".toml")
  settings ++ extended ++
    match r.action with
    | .validate config recordings _ => config :: recordings
    | .metadata config => [config]
    | .zones recordings => recordings
    | _ => []

/-- What a run shows: its exit code, what it writes as results, what it writes besides, and the files
as they are then. -/
structure Appearance where
  exitCode : Nat
  output : String
  remarks : String
  disk : Disk

/-- What a run shows where the command line is not carried out. -/
def Appearance.ofStop (env : Environment) (d : Disk) (stop : Stop) : Appearance :=
  let text := stop.text (Surroundings.ofEnvironment env)
  if stop.isAnswer then ⟨stop.exitCode, text, "", d⟩ else ⟨stop.exitCode, "", text, d⟩

/-- What a run shows that has been carried out, or has failed. -/
def Appearance.ofEnding (m : Moment) (env : Environment) (e : Ending) : Appearance :=
  ⟨e.exitCode, e.output, String.join (e.log (filterOf env e.request) m.time) ++ e.complaint,
    e.trail.disk⟩

/-- What the program shows where the environment is complete. -/
def appear (m : Moment) (env : Environment) (d : Disk) (words : List String)
    (terminal : Bool := false) : Appearance :=
  match run m env d words terminal with
  | .error stop => .ofStop env d stop
  | .ok ending => .ofEnding m env ending

/-- What the program shows. Variables may come from a file near the working directory as well. -/
def execute (m : Moment) (env : Environment) (d : Disk) (words : List String)
    (terminal : Bool := false) : Appearance :=
  appear m (Environment.withFile env d) d words terminal

end InstallCheck.Program
