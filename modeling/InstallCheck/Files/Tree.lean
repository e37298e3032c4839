import InstallCheck.Files.Path
import InstallCheck.Text.Utf8

/-!
Files and directories, and what can go wrong with them. Paths are looked up from the working directory,
name by name, as they are written.
-/
namespace InstallCheck.Files

inductive Failure
  | missing
  | notDirectory
  | isDirectory
  | occupied
  | nameTooLong
  /-- A path with a character that no path may have. -/
  | invalidPath
  /-- A file whose bytes are not a text. -/
  | notText
  /-- A directory whose path is too long to list it. -/
  | unlistable (path : String)
  /-- Any other reason. -/
  | other (reason : String)
  deriving DecidableEq, Repr

def Failure.text : Failure → String
  | missing => "No such file or directory (os error 2)"
  | notDirectory => "Not a directory (os error 20)"
  | isDirectory => "Is a directory (os error 21)"
  | occupied => "File exists (os error 17)"
  | nameTooLong => "File name too long (os error 36)"
  | invalidPath => "file name contained an unexpected NUL byte"
  | notText => "stream did not contain valid UTF-8"
  | unlistable path => s!"IO error for operation on {path}: File name too long (os error 36)"
  | other reason => reason

/-- What lies behind a failure. -/
def Failure.cause? : Failure → Option Failure
  | unlistable _ => some nameTooLong
  | _ => none

/-- A file with its bytes, or a directory with its entries in any order. -/
inductive Node
  | file (bytes : List UInt8)
  | directory (entries : List (String × Node))
  deriving Inhabited

namespace Node

/-- The entry of a directory. -/
def entry? (name : String) : Node → Option Node
  | file _ => none
  | directory entries => entries.lookup name

def isDirectory : Node → Bool
  | directory _ => true
  | file _ => false

/-- The node at the end of a way through directories. -/
def descend : List String → Node → Option Node
  | [], n => some n
  | name :: rest, n => n.entry? name >>= descend rest

/-- A list of entries in which one has been put, in place of the one that is there. -/
def putEntry (name : String) (n : Node) : List (String × Node) → List (String × Node)
  | [] => [(name, n)]
  | (other, m) :: rest =>
    if other = name then (name, n) :: rest else (other, m) :: putEntry name n rest

/-- A tree in which a node has been put at the end of a way through directories that exist. -/
def put (tree : Node) (way : List String) (new : Node) : Node :=
  match way, tree with
  | [], _ => new
  | name :: rest, directory entries =>
    match entries.lookup name with
    | some below => directory (putEntry name (below.put rest new) entries)
    | none => if rest.isEmpty then directory (putEntry name new entries) else directory entries
  | _ :: _, file bytes => file bytes

/-- A tree in which a node has been put at the end of a way, with every directory on it. -/
def plant (tree : Node) (way : List String) (new : Node) : Node :=
  match way, tree with
  | [], _ => new
  | name :: rest, directory entries =>
    let below := (entries.lookup name).getD (directory [])
    directory (putEntry name (below.plant rest new) entries)
  | name :: rest, file _ => directory [(name, (directory []).plant rest new)]

end Node

/-- Everything on a machine, and the directory in which a program runs. -/
structure Disk where
  root : Node
  workingDirectory : List String
  deriving Inhabited

namespace Disk

/-- The greatest number of bytes of a path. -/
def longestPath : Nat := 4095

/-- The greatest number of bytes of a name. -/
def longestName : Nat := 255

/-- One step of a path from a directory. A name may be missing only at the end of a path. -/
def step (d : Disk) (location : List String) (piece : String) : Except Failure (List String) :=
  match d.root.descend location with
  | none => .error .missing
  | some (.file _) => .error .notDirectory
  | some (.directory _) =>
    if Path.isIdle piece then .ok location
    else if piece = ".." then .ok location.dropLast
    else if longestName < piece.utf8ByteSize then .error .nameTooLong
    else .ok (location ++ [piece])

/-- Where a path leads; the last name of it need not exist. -/
def locate (d : Disk) (path : String) : Except Failure (List String) :=
  if path = "" then .error .missing
  else if path.contains '\x00' then .error .invalidPath
  else if longestPath < path.utf8ByteSize then .error .nameTooLong
  else (Path.pieces path).foldlM d.step (if Path.isAbsolute path then [] else d.workingDirectory)

/-- The file or directory at a path. -/
def node (d : Disk) (path : String) : Except Failure Node := do
  match d.root.descend (← d.locate path) with
  | some n => return n
  | none => throw .missing

/-- Whether there is something at a path. -/
def has (d : Disk) (path : String) : Bool := (d.node path).isOk

/-- Whether there is a file at a path. -/
def hasFile (d : Disk) (path : String) : Bool :=
  match d.node path with
  | .ok (.file _) => true
  | _ => false

/-- The bytes of a file. -/
def read (d : Disk) (path : String) : Except Failure (List UInt8) := do
  match ← d.node path with
  | .file bytes => return bytes
  | .directory _ => throw .isDirectory

def readText (d : Disk) (path : String) : Except Failure String := do
  match Text.ofUtf8? (← d.read path) with
  | some s => return s
  | none => throw .notText

/-- Puts text into a file, which is made if it is not there. -/
def write (d : Disk) (path content : String) : Except Failure Disk := do
  match d.node path with
  | .ok (.directory _) => throw .isDirectory
  | .error .missing => if path.endsWith "/" then throw .isDirectory
  | _ => pure ()
  let location ← d.locate path
  return { d with root := d.root.put location (.file content.toUTF8.toList) }

/-- Makes a directory for each piece of a path where there is nothing yet. -/
def makeDirectory (d : Disk) (location : List String) (piece : String) :
    Except Failure (Disk × List String) := do
  let location ← d.step location piece
  match d.root.descend location with
  | some _ => return (d, location)
  | none => return ({ d with root := d.root.put location (.directory []) }, location)

/-- Makes a directory and the directories above it, as far as they are not there. -/
def makeDirectories (d : Disk) (path : String) : Except Failure Disk := do
  if path = "" then return d
  if path.contains '\x00' then throw .invalidPath
  if longestPath < path.utf8ByteSize then throw .nameTooLong
  let start := if Path.isAbsolute path then [] else d.workingDirectory
  let (d, location) ← (Path.pieces path).foldlM (fun (d, location) piece =>
    d.makeDirectory location piece) (d, start)
  match d.root.descend location with
  | some (.file _) => throw .occupied
  | _ => return d

end Disk

/-- What comes up on a walk through a directory. -/
inductive Visit
  | file (path : String) (bytes : List UInt8)
  /-- A directory that cannot be listed. -/
  | unlistable (path : String)

/-- Named things in order of their names. -/
def sortByName {α : Type} (named : List (String × α)) : List (String × α) :=
  named.mergeSort fun a b => a.1 ≤ b.1

mutual

/-- The files of a node that stands at a path, directories in the order of their entries' names. -/
def Node.visits (path : String) : Node → List Visit
  | .file bytes => [.file path bytes]
  | .directory entries =>
    if Disk.longestPath < path.utf8ByteSize then [.unlistable path]
    else (sortByName (entryVisits path entries)).flatMap (·.2)

/-- The files of each entry of a directory that stands at a path. -/
def entryVisits (path : String) : List (String × Node) → List (String × List Visit)
  | [] => []
  | (name, n) :: rest => (name, n.visits (Path.join path name)) :: entryVisits path rest

end

end InstallCheck.Files
