import InstallCheck.Field.Path

/-!
One defect of an install config: where it is, of what kind, the value at fault and why it is wrong.
Its text is one entry of a report.
-/
namespace InstallCheck.Field

/-- What is wrong at a place. -/
inductive Issue.Kind
  /-- A mandatory value is absent. -/
  | required
  /-- A value breaks a rule. -/
  | invalid
  /-- A named resource does not exist. -/
  | notFound
  /-- A value is not one of a fixed set. -/
  | notSupported
  /-- The lookup that should have decided failed. -/
  | internalError
  deriving DecidableEq, Repr

namespace Issue.Kind

/-- The words for a kind in a report. -/
def label : Kind → String
  | required => "Required value"
  | invalid => "Invalid value"
  | notFound => "Not found"
  | notSupported => "Unsupported value"
  | internalError => "Internal error"

def name : Kind → String
  | required => "Required"
  | invalid => "Invalid"
  | notFound => "NotFound"
  | notSupported => "NotSupported"
  | internalError => "InternalError"

/-- Whether a report shows the value at fault. -/
def showsValue : Kind → Bool
  | invalid | notFound | notSupported => true
  | required | internalError => false

end Issue.Kind

structure Issue where
  path : Path
  kind : Issue.Kind
  value : String
  detail : String
  deriving DecidableEq, Repr

namespace Issue

def required (path : Path) (detail : String) : Issue := ⟨path, .required, "", detail⟩

def invalid (path : Path) (value detail : String) : Issue := ⟨path, .invalid, value, detail⟩

/-- A value names a resource that does not exist. -/
def notFound (path : Path) (value : String) : Issue := ⟨path, .notFound, value, ""⟩

/-- A value is not among the supported ones, which are listed in the order given. -/
def notSupported (path : Path) (value : String) (supported : List String) : Issue :=
  ⟨path, .notSupported, value,
    "supported values: " ++ ", ".intercalate (supported.map fun s => "\"" ++ s ++ "\"")⟩

/-- A lookup failed, for the reason given. -/
def internalError (path : Path) (cause : String) : Issue := ⟨path, .internalError, "", cause⟩

def text (i : Issue) : String :=
  i.path.text ++ ": " ++ i.kind.label ++
    (if i.kind.showsValue then ": \"" ++ i.value ++ "\"" else "") ++
    (if i.detail = "" then "" else ": " ++ i.detail)

end Issue

/-- The text of several defects, one after the other on lines of their own. -/
def reportText (issues : List Issue) : String := "\n".intercalate (issues.map Issue.text)

end InstallCheck.Field
