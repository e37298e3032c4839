/-!
The kinds of failure that a caller may want to tell apart.
-/
namespace InstallCheck

inductive Category
  | validation
  | notFound
  | configuration
  | internal
  deriving DecidableEq, Repr

def Category.name : Category → String
  | .validation => "Validation"
  | .notFound => "NotFound"
  | .configuration => "Configuration"
  | .internal => "Internal"

end InstallCheck
