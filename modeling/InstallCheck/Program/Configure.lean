import InstallCheck.Output.Writer
import InstallCheck.Program.Task
import InstallCheck.Settings.Loading
import InstallCheck.Settings.Text

/-!
Commands on the settings of the program: writing the default ones, and telling what they are and where.
-/
namespace InstallCheck.Program

open Output (Writer)

namespace Init

/-- Where the default settings are written: the file asked for, or else the one of the current
directory or of the user. -/
def path (env : Environment) (asked : Option String) (here : Bool) : String :=
  match asked with
  | some path => path
  | none => if here then Settings.localFile else Settings.userFile env

/-- Writes the default settings, whatever is there. -/
def write (w : Writer) (path : String) : Task Unit := do
  match (Files.Path.parent? path).filter (· ≠ "") with
  | some parent =>
    let d ← Task.disk
    Task.setDisk (← Task.file s!"Failed to create config directory '{parent}'"
      (d.makeDirectories parent))
  | none => pure ()
  let d ← Task.disk
  Task.setDisk (← Task.file s!"Failed to write config to '{path}'"
    (d.write path Settings.default.text))
  Task.log (.plain "preflight::commands::init" .info "Wrote default configuration" [("path", path)])
  Task.write (w.success s!"Configuration created at {path}")

end Init

/-- Writes the default settings. A file that is there is only replaced if that is forced. -/
def init (env : Environment) (w : Writer) (asked : Option String) (here force : Bool) : Task Unit := do
  let path := Init.path env asked here
  if (← Task.disk).has path && !force then
    Task.write (w.warning s!"Config already exists at {path}  (use --force to overwrite)")
  else Init.write w path

/-- The value of a setting as a text. -/
def settingText (s : Settings) (key : String) : Except CommandError String :=
  match key with
  | "lookup.timeout_secs" => .ok (toString s.timeoutSeconds)
  | "output.no_color" => .ok (Settings.switchText s.noColor)
  | "output.format" => .ok s.format
  | _ =>
    if key.startsWith "regions." then
      match s.catalog.displayName (key.drop "regions.".length).toString with
      | .ok name => .ok name
      | .error e => .error (.settings e.text [e.text])
    else .error (.settings s!"Unknown config key: '{key}'" [])

/-- Tells one setting. -/
def setting (s : Settings) (w : Writer) (key : String) : Task Unit :=
  match settingText s key with
  | .ok value => Task.write (w.print s!"{key} = {value}")
  | .error e => throw e

/-- Tells all settings. -/
def settings (s : Settings) (w : Writer) : Task Unit :=
  Task.write
    (if w.isJson then Writer.document s.toDocument
    else w.header "Current Configuration:" ++ w.print s.text)

/-- Tells where the settings are, or would be. -/
def settingsPath (env : Environment) (w : Writer) (asked : Option String) : Task Unit := do
  let d ← Task.disk
  let path := asked.getD (Settings.usualFile env d)
  Task.write (w.print (path ++ if d.hasFile path then "" else " (not created yet)"))

end InstallCheck.Program
