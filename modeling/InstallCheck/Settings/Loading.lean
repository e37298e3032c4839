import InstallCheck.Environment
import InstallCheck.Files.Tree
import InstallCheck.Settings.Place
import InstallCheck.Settings.Reading
import InstallCheck.Toml.Parser

/-!
Where settings come from. What is not set in the environment comes from a file, and what is not set
there is at its default. A file that was asked for has to exist.
-/
namespace InstallCheck.Settings

open Files (Disk)

inductive LoadError
  | noFile (path : String)
  | malformed
  deriving DecidableEq, Repr

def LoadError.text : LoadError → String
  | noFile path => s!"configuration file \"{path}\" not found"
  | malformed => "the settings are not well formed"

def localFile : String := ".preflight.toml"

/-- The directory for the settings of programs. -/
def settingsDirectory (env : Environment) : String :=
  match (env.get? "XDG_CONFIG_HOME").filter Files.Path.isAbsolute with
  | some directory => directory
  | none => Files.Path.join ((env.get? "HOME").getD "/root") ".config"

/-- The path of the settings file of the user. -/
def userFile (env : Environment) : String :=
  Files.Path.join (Files.Path.join (settingsDirectory env) "preflight") "config.toml"

/-- The path of the settings file that is used unless another one is asked for. -/
def usualFile (env : Environment) (d : Disk) : String :=
  if d.has localFile then localFile else userFile env

/-- The file that a path stands for: that file, or else the one with `.toml` added to the name. -/
def actualFile? (d : Disk) (path : String) : Option String :=
  [path, Files.Path.extended path ".toml"].find? d.hasFile

/-- The settings in the bytes of a file. -/
def ofBytes (bytes : List UInt8) : Except LoadError Document :=
  match Toml.parse (Text.ofUtf8 bytes) >>= ofValue? with
  | some d => .ok d
  | none => .error .malformed

/-- The settings in the file that a path stands for; there are none if it need not exist and does
not. -/
def ofFile (d : Disk) (path : String) (required : Bool) : Except LoadError Document :=
  match actualFile? d path with
  | none => if required then .error (.noFile path) else .ok (.record [])
  | some actual =>
    match d.read actual with
    | .ok bytes => ofBytes bytes
    | .error _ => .error .malformed

/-- A setting of the environment as a truth value, a number, or else a text. -/
def ofVariable (s : String) : Document :=
  if s.toLower = "true" then .bool true
  else if s.toLower = "false" then .bool false
  else
    match (Decimal.integer? s).filter fun n => -Int.pow 2 63 ≤ n && n < Int.pow 2 63 with
    | some n => .integer n
    | none =>
      match Decimal.float? s with
      | some x => .float x
      | none => .text s

/-- What the name of an environment variable begins with if it is a setting, in lower case. -/
def variableMark : String := "preflight__"

/-- The place that an environment variable sets, if it is a setting. In its name, two underscores stand
between the names of the place. -/
def variablePlace? (name : String) : Option Place :=
  let name := name.toLower
  if name.startsWith variableMark then
    some (.ofText (".".intercalate ((name.drop variableMark.length).toString.splitOn "__")))
  else none

/-- A document with the fields of a record put in, of which each name stands for a place. -/
def layer (d : Document) (fields : List (String × Document)) : Document :=
  fields.foldl (fun d f => assign f.2 (.ofText f.1) d) d

/-- A document with the settings of the environment put in. -/
def layerEnvironment (d : Document) (env : Environment) : Document :=
  env.entries.foldl (fun d e =>
    match variablePlace? e.1 with
    | some place => assign (ofVariable e.2) place d
    | none => d) d

/-- The settings of the defaults, a file and the environment, each of which goes before the ones
before it. -/
def ofLayers (file : Document) (env : Environment) : Except LoadError Settings :=
  match read (layerEnvironment (layer default.toDocument (fieldsOf file)) env) with
  | some s => .ok s
  | none => .error .malformed

/-- The settings, from the file asked for or else from the usual one. -/
def load (env : Environment) (d : Disk) (file : Option String) : Except LoadError Settings := do
  let content ← match file with
    | some path => ofFile d path true
    | none => ofFile d (usualFile env d) false
  ofLayers content env

end InstallCheck.Settings
