/-!
Paths of files as they are written, with names separated by slashes. What a path says about a file is
read off its text; nothing here looks at files.
-/
namespace InstallCheck.Files.Path

/-- The pieces of a path between its slashes. -/
def pieces (path : String) : List String := (path.split '/').toList.map String.Slice.copy

def isAbsolute (path : String) : Bool := path.startsWith "/"

/-- A path below a directory; an absolute path stands for itself. -/
def join (directory path : String) : String :=
  if isAbsolute path then path
  else if directory = "" || directory.endsWith "/" then directory ++ path
  else directory ++ "/" ++ path

/-- Whether a piece of a path leads nowhere else. -/
def isIdle (piece : String) : Bool := piece = "" || piece = "."

/-- The last name of a path, unless it ends in a step upwards or has none. -/
def fileName? (path : String) : Option String :=
  match (pieces path).reverse.dropWhile isIdle with
  | [] => none
  | name :: _ => if name = ".." then none else some name

/-- What stands after the last dot of a name that does not begin with that dot. -/
def nameExtension? (name : String) : Option String :=
  match (name.splitOn ".").reverse with
  | [] | [_] => none
  | last :: before => if before = [""] then none else some last

/-- The extension of the last name of a path. -/
def extension? (path : String) : Option String := fileName? path >>= nameExtension?

/-- A path with something added to its last name. -/
def extended (path addition : String) : String :=
  match fileName? path with
  | none => path
  | some name =>
    let above := ((pieces path).reverse.dropWhile isIdle).drop 1
    "/".intercalate (above.reverse ++ [name ++ addition])

/-- The path of the directory that holds a file. A path that is empty or the root has none. -/
def parent? (path : String) : Option String :=
  match (pieces path).reverse.dropWhile isIdle with
  | [] => if isAbsolute path || path = "" then none else some ""
  | _ :: above =>
    match above.dropWhile (fun piece => isIdle piece) with
    | [] =>
      match above.reverse with
      | [] => some ""
      | "" :: _ => some "/"
      | first :: _ => some first
    | kept => some ("/".intercalate kept.reverse)

end InstallCheck.Files.Path
