import InstallCheck.Field.Issue
import InstallCheck.Lookup.Error
import InstallCheck.ValueError

/-!
Why an install config was not accepted.
-/
namespace InstallCheck

inductive CheckError
  | value (cause : ValueError)
  /-- A lookup failed that was not made for a check. -/
  | lookup (cause : LookupError)
  /-- The config has issues. -/
  | issues (found : List Field.Issue)
  | configuration (message : String)
  | internal (message : String)
  deriving DecidableEq, Repr

namespace CheckError

/-- The text of an error; that of a config with issues is the report of them. -/
def text : CheckError → String
  | value cause => "Domain error: " ++ cause.text
  | lookup cause => "Lookup failed: " ++ cause.text
  | issues found => Field.reportText found
  | configuration message => "Configuration error: " ++ message
  | internal message => "Internal error: " ++ message ++ ". This is a bug, please report it."

def name : CheckError → String
  | value _ => "Domain"
  | lookup _ => "Lookup"
  | issues _ => "Validation"
  | configuration _ => "Configuration"
  | internal _ => "Internal"

def category : CheckError → Category
  | value cause => cause.category
  | lookup cause => cause.category
  | issues _ => .validation
  | configuration _ => .configuration
  | internal _ => .internal

def suggestions : CheckError → List String
  | value cause => cause.suggestions
  | lookup cause => cause.suggestions
  | issues found =>
    [s!"{found.length} problem(s) found in the install config",
      "Fix the fields listed above and run the validation again"]
  | configuration message =>
    [s!"Configuration issue: {message}", "Check your setup and try again"]
  | internal _ =>
    ["This appears to be a bug in preflight",
      "Please report this issue at: https://github.com/cosecruz/preflight/issues"]

/-- Whether the same attempt may succeed later. -/
def isRetryable : CheckError → Bool
  | lookup (.timeout _) | lookup (.transport ..) => true
  | _ => false

/-- A failure described in terms of what was attempted. -/
def inContext (message cause : String) : CheckError := .configuration (message ++ ": " ++ cause)

end CheckError

end InstallCheck
