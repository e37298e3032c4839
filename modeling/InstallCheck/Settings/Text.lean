import InstallCheck.Settings.Basic
import InstallCheck.Toml.Printer

/-!
The text of a settings file.
-/
namespace InstallCheck.Settings

def line (name value : String) : String := Toml.nameText name ++ " = " ++ value ++ "\n"

/-- A truth value in a settings file. -/
def switchText (b : Bool) : String := if b then "true" else "false"

/-- The settings as the text of a settings file. -/
def text (s : Settings) : String :=
  "[lookup]\n" ++ line "timeout_secs" (toString s.timeoutSeconds) ++
    "\n[regions]\n" ++
    String.join (s.regions.entries.map fun e => line e.1 (Toml.textValue e.2)) ++
    "\n[output]\n" ++ line "no_color" (switchText s.noColor) ++
    line "format" (Toml.textValue s.format)

end InstallCheck.Settings
