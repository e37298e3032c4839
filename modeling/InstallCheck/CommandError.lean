import InstallCheck.CheckError
import InstallCheck.Cloud.Recording
import InstallCheck.Text.Style

/-!
Why a command failed, what is shown about it, and the exit code that it stands for.
-/
namespace InstallCheck

/-- Why a command failed. Causes are listed from the nearest to the remotest. -/
inductive CommandError
  /-- Something that the user gave cannot be used. -/
  | invalidInput (message : String) (causes : List String)
  /-- The settings cannot be used. -/
  | settings (message : String) (causes : List String)
  | check (cause : CheckError)
  | recording (cause : Cloud.RecordingError)
  /-- The install config has issues, which have been shown. -/
  | issuesFound (count : Nat)
  | file (message : String) (cause : Files.Failure)
  deriving DecidableEq, Repr

/-- What a failure of a command is about. -/
inductive CommandError.Category
  | user
  | notFound
  | configuration
  | internal
  deriving DecidableEq, Repr

namespace CommandError

def Category.name : Category → String
  | user => "UserError"
  | notFound => "NotFound"
  | configuration => "Configuration"
  | internal => "Internal"

/-- The exit code that a category stands for. -/
def Category.exitCode : Category → Nat
  | user => 2
  | notFound => 3
  | configuration => 4
  | internal => 1

def text : CommandError → String
  | invalidInput message _ => "Invalid input: " ++ message
  | settings message _ => "Configuration error: " ++ message
  | check cause => cause.text
  | recording cause => "Cloud snapshot error: " ++ cause.text
  | issuesFound count => s!"Validation failed with {count} error(s)"
  | file message _ => "I/O error: " ++ message

def name : CommandError → String
  | invalidInput .. => "InvalidInput"
  | settings .. => "ConfigError"
  | check _ => "Core"
  | recording _ => "Snapshot"
  | issuesFound _ => "ValidationFailed"
  | file .. => "IoError"

def category : CommandError → Category
  | invalidInput .. => .user
  | settings .. => .configuration
  | check cause =>
    match cause.category with
    | .validation => .user
    | .notFound => .notFound
    | .configuration => .configuration
    | .internal => .internal
  | recording (.notFound _) => .notFound
  | recording (.unreadable ..) => .internal
  | recording _ => .user
  | issuesFound _ => .user
  | file .. => .internal

/-- The exit code of a command that failed. -/
def exitCode (e : CommandError) : Nat := e.category.exitCode

def suggestions : CommandError → List String
  | invalidInput message _ =>
    [s!"Check your input: {message}",
      "Install configs must be .json or .toml files",
      "Use --help for usage information"]
  | settings message _ =>
    [s!"Configuration issue: {message}",
      "Show the config file in use: preflight config path",
      "Use 'preflight init --force' to write a default config"]
  | check cause => cause.suggestions
  | recording (.notFound path) =>
    [s!"No snapshot at '{path}'",
      "Pass an existing file or directory to --cloud",
      "Use --offline to skip cloud checks"]
  | recording (.unsupported path) => [s!"Rename '{path}' to end in .toml or .json"]
  | recording cause =>
    [s!"Check the snapshot file '{cause.path}'",
      "Snapshots are TOML or JSON documents of cloud resources"]
  | issuesFound _ => ["Fix the fields listed above and run the validation again"]
  | file message _ =>
    [s!"I/O operation failed: {message}", "Check file permissions",
      "Ensure the parent directory exists"]

/-- The texts of a failed operation on a file and of what lies behind it. -/
def fileCauses (f : Files.Failure) : List String := f.text :: (f.cause?.map (·.text)).toList

/-- The texts of a recording that could not be used and of what lies behind that. -/
def recordingCauses (e : Cloud.RecordingError) : List String :=
  e.text ::
    match e with
    | .unreadable _ cause => fileCauses cause
    | _ => []

/-- The causes of an error, from the nearest to the remotest. -/
def causes : CommandError → List String
  | invalidInput _ causes | settings _ causes => causes
  | check (.value cause) => [cause.text]
  | check (.lookup cause) => [cause.text]
  | check _ => []
  | recording cause => recordingCauses cause
  | issuesFound _ => []
  | file _ cause => fileCauses cause

/-- The error as it is shown without colours. Only a detailed view lists the causes. -/
def plain (detailed : Bool) (e : CommandError) : String :=
  "\nError: " ++ e.text ++ "\n" ++
    (if detailed then String.join (e.causes.map fun c => "  Caused by: " ++ c ++ "\n") else "") ++
    "\nSuggestions:\n" ++ String.join (e.suggestions.map fun s => "  " ++ s ++ "\n") ++
    (if detailed then "" else "\nUse -v / --verbose for more details.\n")

/-- The error as it is shown in colours. Only a detailed view lists the causes. -/
def colored (detailed : Bool) (e : CommandError) : String :=
  let strong (color : Text.Color) (s : String) : String := Text.bold (Text.colored color s)
  "\n" ++ strong .red "✗" ++ " " ++ strong .red "Error:" ++ "\n\n  " ++ Text.colored .red e.text ++ "\n" ++
    (if detailed then
      String.join (e.causes.map fun c => "\n  " ++ Text.dimmed "→" ++ " " ++ Text.dimmed c ++ "\n")
    else "") ++
    "\n" ++ strong .yellow "Suggestions:" ++ "\n" ++
    String.join (e.suggestions.map fun s => "  " ++ s ++ "\n") ++
    (if detailed then ""
    else "\n" ++ Text.colored .blue "ℹ" ++ " " ++
      Text.dimmed "Use -v / --verbose for more details." ++ "\n")

end CommandError

end InstallCheck
