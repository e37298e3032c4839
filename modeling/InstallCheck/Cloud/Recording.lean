import InstallCheck.Cloud.Snapshot
import InstallCheck.Document.Format
import InstallCheck.Files.Tree
import InstallCheck.Logging.Event

/-!
Snapshots recorded in files. A path names one file, or a directory of which every file with a known
extension counts, in the order of the paths; several paths stand for the merge of what each holds.
-/
namespace InstallCheck.Cloud

open Document (Format)
open Files (Disk Visit)
open Logging (Event)

inductive RecordingError
  | notFound (path : String)
  | unreadable (path : String) (cause : Files.Failure)
  | malformed (path message : String)
  | unsupported (path : String)
  deriving DecidableEq, Repr

namespace RecordingError

def text : RecordingError → String
  | notFound path => "snapshot not found: " ++ path
  | unreadable path cause => s!"failed to read '{path}': " ++ cause.text
  | malformed path message => s!"failed to parse '{path}': {message}"
  | unsupported path => s!"unsupported snapshot format '{path}' (expected .toml or .json)"

def name : RecordingError → String
  | notFound _ => "NotFound"
  | unreadable .. => "Io"
  | malformed .. => "Parse"
  | unsupported _ => "UnsupportedFormat"

/-- The file that the error is about. -/
def path : RecordingError → String
  | notFound path | unreadable path _ | malformed path _ | unsupported path => path

end RecordingError

namespace Recording

/-- The format of a file; extensions are written in lower case. -/
def format? (path : String) : Option Format := Files.Path.extension? path >>= Format.ofExtension?

/-- Why a document with the right format is no snapshot. -/
def notSnapshot : String := "not a snapshot of a cloud account"

/-- The snapshot that the text of a file holds. -/
def ofText (path : String) (format : Format) (text : String) : Except RecordingError Snapshot :=
  match Document.ofText? format text >>= Snapshot.read with
  | some s => .ok s
  | none => .error (.malformed path notSnapshot)

/-- The snapshot that a file holds. -/
def loadFile (d : Disk) (path : String) : Except RecordingError Snapshot :=
  match format? path with
  | none => .error (.unsupported path)
  | some format =>
    match d.readText path with
    | .error cause => .error (.unreadable path cause)
    | .ok text => ofText path format text

/-- The snapshot that something on a walk adds, if it adds any. -/
def ofVisit (d : Disk) : Visit → Except RecordingError Snapshot
  | .unlistable path => .error (.unreadable path (.unlistable path))
  | .file path _ => if (format? path).isSome then loadFile d path else .ok ∅

/-- The merge of the snapshots that a walk comes by. -/
def ofVisits (d : Disk) (visits : List Visit) : Except RecordingError Snapshot :=
  visits.foldlM (fun s v => (ofVisit d v).map s.merge) ∅

/-- The snapshot that a file or a directory holds. -/
def loadPath (d : Disk) (path : String) : Except RecordingError Snapshot :=
  match d.node path with
  | .error _ => .error (.notFound path)
  | .ok (.file _) => loadFile d path
  | .ok (.directory entries) => ofVisits d ((Files.Node.directory entries).visits path)

/-- The merge of the snapshots that several paths hold, in order. -/
def load (d : Disk) (paths : List String) : Except RecordingError Snapshot :=
  paths.foldlM (fun s path => (loadPath d path).map s.merge) ∅

def target : String := "preflight_adapters::snapshot_loader"

/-- The report on a path that has been loaded: the number of files of a directory. -/
def report (d : Disk) (path : String) : List Event :=
  match d.node path with
  | .ok (.directory entries) =>
    let files := ((Files.Node.directory entries).visits path).countP fun v => match v with
      | .file path _ => (format? path).isSome
      | .unlistable _ => false
    [(Event.plain target .debug "loaded snapshot directory" [("files", toString files)]).within
      ⟨target, "load_path", [("path", path)]⟩]
  | _ => []

/-- The reports on the paths that are loaded in turn, up to the first one that cannot be. -/
def reports (d : Disk) (paths : List String) : List Event :=
  (paths.takeWhile fun path => (loadPath d path).isOk).flatMap (report d)

end Recording

end InstallCheck.Cloud
