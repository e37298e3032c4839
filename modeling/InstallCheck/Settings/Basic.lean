import InstallCheck.Document.Basic
import InstallCheck.Duration
import InstallCheck.Region

/-!
What can be set for the program as a whole: how long a lookup may take, the regions that are allowed,
and how output looks.
-/
namespace InstallCheck

/-- The settings of the program. -/
structure Settings where
  /-- The time limit of a lookup, in seconds. -/
  timeoutSeconds : Nat
  /-- The regions that are allowed; none stand for the built-in ones. -/
  regions : NameMap String
  noColor : Bool
  /-- The name of the output format. -/
  format : String
  deriving DecidableEq

namespace Settings

/-- The settings where nothing is set. -/
def default : Settings := ⟨60, ∅, false, "auto"⟩

instance : Inhabited Settings := ⟨default⟩

/-- The regions that are allowed. -/
def catalog (s : Settings) : Region.Catalog :=
  if s.regions.isEmpty then Region.Catalog.builtIn else s.regions

/-- The time limit of a lookup. -/
def limit (s : Settings) : Duration := .ofSeconds s.timeoutSeconds

def toDocument (s : Settings) : Document :=
  .record
    [("lookup", .record [("timeout_secs", .integer s.timeoutSeconds)]),
      ("regions", .ofNameMap .text s.regions),
      ("output", .record [("no_color", .bool s.noColor), ("format", .text s.format)])]

end Settings

end InstallCheck
