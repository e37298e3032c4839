import InstallCheck.CommandError
import InstallCheck.Files.Given
import InstallCheck.Install.Document

/-!
Reading install configs from files, whose extension, in any case, says what format they have.
-/
namespace InstallCheck.Install

open Files (Disk Given)

/-- Why a document with the right format is no install config. -/
def notConfig : String := "not an install config"

/-- The install config that a file holds. -/
def loadConfig (d : Disk) (path : Given) : Except CommandError Config :=
  match (Files.Path.extension? path.shown).map (·.toLower) >>= Document.Format.ofExtension? with
  | none => .error (.invalidInput s!"'{path.shown}' has no .json or .toml extension" [])
  | some format =>
    match path.readText d with
    | .error cause => .error (.file s!"Failed to read '{path.shown}'" cause)
    | .ok text =>
      match Document.ofText? format text >>= Config.read with
      | some c => .ok c
      | none => .error (.invalidInput s!"'{path.shown}' is not a valid install config" [notConfig])

end InstallCheck.Install
