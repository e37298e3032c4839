import InstallCheck.Category
import InstallCheck.Duration

/-!
Why a cloud lookup has no answer. A resource that does not exist is kept apart from a lookup that did
not come to an end and from one that failed.
-/
namespace InstallCheck

inductive LookupError
  /-- The lookup worked, and the resource does not exist. -/
  | notFound (resource id : String)
  /-- The run was cancelled before the lookup or during it. -/
  | cancelled
  /-- The lookup took longer than it may. -/
  | timeout (limit : Duration)
  /-- The lookup itself failed. -/
  | transport (operation message : String)
  deriving DecidableEq, Repr

namespace LookupError

def text : LookupError → String
  | notFound resource id => resource ++ " not found: \"" ++ id ++ "\""
  | cancelled => "lookup cancelled"
  | timeout limit => "lookup timed out after " ++ limit.text
  | transport operation message => operation ++ " failed: " ++ message

def name : LookupError → String
  | notFound .. => "NotFound"
  | cancelled => "Cancelled"
  | timeout _ => "Timeout"
  | transport .. => "Transport"

/-- Whether the resource is known not to exist. -/
def isNotFound : LookupError → Bool
  | notFound .. => true
  | cancelled | timeout _ | transport .. => false

/-- Whether the lookup did not come to an end, so that nothing is known about the resource. -/
def isInterrupted : LookupError → Bool
  | cancelled | timeout _ => true
  | notFound .. | transport .. => false

def category : LookupError → Category
  | notFound .. => .notFound
  | cancelled | timeout _ | transport .. => .internal

def suggestions : LookupError → List String
  | notFound resource id =>
    [s!"No {resource} named '{id}' exists in this account",
      "Check the account and region you are logged in to"]
  | cancelled => ["The run was cancelled; no result is available"]
  | timeout limit =>
    ["The cloud API did not answer within " ++ limit.text,
      "Try again, or raise lookup.timeout_secs in the config"]
  | transport .. =>
    ["Check network connectivity and credentials", "Try again in a moment"]

end LookupError

end InstallCheck
