import InstallCheck.Program.Run
import InstallCheck.Timestamp
import Std.Time.DateTime.Timestamp

/-!
The command line. The files that a run may need are read before it, and those that it changes are
written after it.
-/
namespace InstallCheck.Main

open Files (Disk Node)

/-- The tree at a path below a directory that exists, if it can be read. -/
partial def tree? (directory path : String) : IO (Option Node) := do
  let place := (← IO.currentDir) / directory / path
  try
    if ← place.isDir then
      let entries ← (← place.readDir).toList.filterMapM fun entry => do
        return (← tree? (Files.Path.join directory path) entry.fileName).map (entry.fileName, ·)
      return some (.directory entries)
    else
      return some (.file (← IO.FS.readBinFile place).toList)
  catch _ => return none

/-- A disk with what is at the given paths. -/
def withPaths (d : Disk) (paths : List String) : IO Disk :=
  paths.foldlM (fun d path => do
    match d.locate path, ← tree? "" path with
    | .ok location, some node => return { d with root := d.root.plant location node }
    | _, _ => return d) d

/-- The environment of the program. -/
def environment : IO Environment := do
  try
    let bytes ← IO.FS.readBinFile "/proc/self/environ"
    let entries := (Text.ofUtf8 bytes.toList).splitOn "\x00"
    return .ofList (entries.filterMap fun entry =>
      match entry.splitOn "=" with
      | name :: first :: rest => some (name, "=".intercalate (first :: rest))
      | _ => none)
  catch _ => return ∅

/-- The disk with only the working directory and what may set variables. -/
def start : IO Disk := do
  let here := Files.Path.pieces (← IO.currentDir).toString |>.filter (· ≠ "")
  let d : Disk := ⟨(Node.directory []).plant here (.directory []), here⟩
  withPaths d ((Environment.files here).map fun location => "/" ++ "/".intercalate location)

/-- Writes a file, and makes the directories above it. -/
def put (path : String) (bytes : List UInt8) : IO Unit := do
  match (Files.Path.parent? path).filter (· ≠ "") with
  | some parent => IO.FS.createDirAll parent
  | none => pure ()
  IO.FS.writeBinFile path ⟨bytes.toArray⟩

/-- Writes the files at the given paths that have changed. -/
def save (before after : Disk) (paths : List String) : IO Unit :=
  paths.forM fun path =>
    match after.read path, before.read path with
    | .ok bytes, .ok old => if bytes = old then return () else put path bytes
    | .ok bytes, .error _ => put path bytes
    | .error _, _ => return ()

/-- The moment of a run that begins now. -/
def moment : IO Program.Moment := do
  let now ← Std.Time.Timestamp.now
  let time : Timestamp := ⟨now.val.second.val.toNat, now.val.nano.val.toNat⟩
  let digits ← (List.range 32).mapM fun _ => return Nat.digitChar (← IO.rand 0 15)
  return ⟨time.text, String.ofList digits⟩

/-- Runs the program with the words of a command line. -/
def run (words : List String) : IO UInt32 := do
  let env ← environment
  let start ← start
  let complete := Environment.withFile env start
  let paths := match CommandLine.Request.ofWords complete words with
    | .ok r => Program.pathsOf complete r
    | .error _ => []
  let d ← withPaths start paths
  let terminal ← (← IO.getStdout).isTty
  let shown := Program.execute (← moment) env d words terminal
  save d shown.disk paths
  IO.print shown.output
  IO.eprint shown.remarks
  return shown.exitCode.toUInt32

end InstallCheck.Main

/-- Runs the program with the words of its command line. -/
def main (words : List String) : IO UInt32 := InstallCheck.Main.run words
