import InstallCheck.Files.Tree

/-!
Paths as a program is given them. A path is a sequence of bytes, which need not be a text. One that is not
is shown with replacement characters, but it is not the path of a file whose name has these characters.
-/
namespace InstallCheck.Files

/-- A path that is not a text. Names on a disk are texts, so what reading the path gives is told with it. -/
structure RawPath where
  bytes : List UInt8
  notText : Text.ofUtf8? bytes = none
  content : Except Failure (List UInt8)

/-- A path as it is given to a program. -/
inductive Given
  | text (path : String)
  | raw (path : RawPath)

namespace Given

instance : Coe String Given := ⟨text⟩

/-- A path as people are shown it. -/
def shown : Given → String
  | text path => path
  | raw path => Text.ofUtf8 path.bytes

/-- A path as a text, if it is one. -/
def text? : Given → Option String
  | text path => some path
  | raw _ => none

/-- The bytes of the file at a path. -/
def read (d : Disk) : Given → Except Failure (List UInt8)
  | text path => d.read path
  | raw path => path.content

def readText (d : Disk) (path : Given) : Except Failure String := do
  match Text.ofUtf8? (← path.read d) with
  | some s => return s
  | none => throw .notText

end Given

end InstallCheck.Files
