import InstallCheck.Environment
import InstallCheck.Files.Tree
import InstallCheck.Text.Blank

/-!
Environment variables that a file sets, one on each line. A value may be quoted and go over several
lines, and may use variables that are set already. What the environment sets is never replaced, and the
first line that makes no sense ends the reading.
-/
namespace InstallCheck.Environment

open Files (Disk)

/-- What the characters read so far of a line make of the next one. -/
inductive Quoting
  | plain
  /-- After a blank, where a comment may begin. -/
  | blank
  | escape
  | single
  | singleEscape
  | double
  | doubleEscape
  deriving DecidableEq, Repr

namespace Quoting

/-- After a plain character. -/
def ofPlain (c : Char) : Quoting :=
  if c = '\\' then escape
  else if c = '"' then double
  else if c = '\'' then single
  else plain

/-- After one more character, unless a comment begins with it. -/
def next? (c : Char) : Quoting → Option Quoting
  | plain => some (if Text.isBlank c && c ≠ '\n' && c ≠ '\r' then blank else ofPlain c)
  | blank => if c = '#' then none else some (ofPlain c)
  | escape => some plain
  | single => some (if c = '\\' then singleEscape else if c = '\'' then plain else single)
  | singleEscape => some single
  | double => some (if c = '\\' then doubleEscape else if c = '"' then plain else double)
  | doubleEscape => some double

/-- The characters before a comment, and what they make of the next one unless a comment begins. -/
def scan : Quoting → List Char → List Char × Option Quoting
  | q, [] => ([], some q)
  | q, c :: rest =>
    match q.next? c with
    | none => ([], none)
    | some q =>
      let (kept, last) := scan q rest
      (c :: kept, last)

end Quoting

/-- The bytes of each line with its end. -/
def byteLines : List UInt8 → List (List UInt8)
  | [] => []
  | b :: rest =>
    if b = 10 then [b] :: byteLines rest
    else
      match byteLines rest with
      | [] => [[b]]
      | line :: others => (b :: line) :: others

def withoutEnd (line : List Char) : List Char :=
  match line.reverse with
  | '\n' :: '\r' :: before | '\n' :: before => before.reverse
  | _ => line

/-- Lines that belong together because a value goes over several of them. Nothing stands for lines that
cannot be read or do not end; none are read after them. -/
def joined : Quoting → List Char → List (Option (List Char)) → List (Option (List Char))
  | _, pending, [] => if pending.isEmpty then [] else [none]
  | _, _, none :: _ => [none]
  | q, pending, some line :: rest =>
    if pending.isEmpty && (Text.afterBlanks line).head? = some '#' then joined .plain [] rest
    else
      match q.scan line with
      | (kept, none) => some (pending ++ kept) :: joined .plain [] rest
      | (_, some .plain) => some (withoutEnd (pending ++ line)) :: joined .plain [] rest
      | (_, some q) => joined q (pending ++ line) rest

/-- What the characters read so far of a value make of the next one. -/
inductive Mode
  | text
  | escape
  | single
  /-- In the name of a variable. -/
  | name (soFar : List Char)
  /-- In the name of a variable in braces. -/
  | braced (soFar : List Char)
  /-- After the value. -/
  | over

/-- The value of the variable with a name. -/
def valueOf (env : Environment) (name : List Char) : List Char :=
  ((env.get? (String.ofList name)).getD "").toList

/-- What an escaped character stands for. -/
def unescape? (c : Char) : Option Char :=
  if ['\\', '\'', '"', '$', ' '].contains c then some c
  else if c = 'n' then some '\n'
  else none

/-- Whether a character may stand in the name of a variable that a value uses; any character beyond
ASCII may. -/
def isNameChar (c : Char) : Bool := c.isAlphanum || 128 ≤ c.toNat

/-- The value that characters stand for, inside double quotes or not, if they make sense. -/
def value? (env : Environment) : Bool → Mode → List Char → Option (List Char)
  | double, mode, [] =>
    match double, mode with
    | false, .name soFar => some (env.valueOf soFar)
    | false, .text | false, .escape | false, .over => some []
    | _, _ => none
  | _, .over, c :: rest =>
    if c = ' ' || c = '\t' then value? env false .over rest
    else if c = '#' then some []
    else none
  | double, .escape, c :: rest => do
    let c ← unescape? c
    return c :: (← value? env double .text rest)
  | double, .single, c :: rest =>
    if c = '\'' then value? env double .text rest
    else (value? env double .single rest).map (c :: ·)
  | double, .name soFar, c :: rest =>
    if isNameChar c then value? env double (.name (soFar ++ [c])) rest
    else if c = '\x7b' && soFar.isEmpty then value? env double (.braced []) rest
    else if c = '$' then (value? env double (.name []) rest).map (env.valueOf soFar ++ ·)
    else (value? env double .text rest).map (env.valueOf soFar ++ c :: ·)
  | double, .braced soFar, c :: rest =>
    if c = '\x7d' then (value? env double .text rest).map (env.valueOf soFar ++ ·)
    else value? env double (.braced (soFar ++ [c])) rest
  | double, .text, c :: rest =>
    if c = '$' then value? env double (.name []) rest
    else if c = '\\' then value? env double .escape rest
    else if c = '"' then value? env (!double) .text rest
    else if double then (value? env double .text rest).map (c :: ·)
    else if c = '\'' then value? env double .single rest
    else if c = ' ' || c = '\t' then value? env double .over rest
    else (value? env double .text rest).map (c :: ·)

/-- The name of a variable, and what follows it. -/
def name? (cs : List Char) : Option (List Char × List Char) :=
  match cs with
  | [] => none
  | c :: _ =>
    if c.isAlpha || c = '_' then
      some (cs.span fun c => c.isAlphanum || c = '_' || c = '.')
    else none

/-- What follows an equals sign. -/
def afterEquals? : List Char → Option (List Char)
  | '=' :: rest => some rest
  | _ => none

/-- The name that a line sets, and what follows the equals sign. A line may begin with the word
`export`. -/
def assigned? (cs : List Char) : Option (List Char × List Char) := do
  let (name, rest) ← name? cs
  let rest := Text.afterBlanks rest
  match afterEquals? rest with
  | some rest => return (name, rest)
  | none =>
    if name ≠ "export".toList then none
    else do
      let (name, rest) ← name? rest
      return (name, ← afterEquals? (Text.afterBlanks rest))

/-- Whether nothing or a comment is left. -/
def isIdle (cs : List Char) : Bool := cs.isEmpty || cs.head? = some '#'

/-- What a line sets: nothing if it is empty or a comment. -/
def assignment? (env : Environment) (line : List Char) : Option (Option (String × String)) :=
  let cs := Text.afterBlanks (Text.beforeBlanks line)
  if isIdle cs then some none
  else do
    let (name, rest) ← assigned? cs
    let rest := Text.afterBlanks rest
    let value ← if isIdle rest then some [] else value? env false .text rest
    return some (String.ofList name, String.ofList value)

/-- Sets what lines set, until one makes no sense. -/
def setLines (env : Environment) : List (Option (List Char)) → Environment
  | [] | none :: _ => env
  | some line :: rest =>
    match env.assignment? line with
    | none => env
    | some none => setLines env rest
    | some (some (name, value)) =>
      setLines (if env.contains name then env else env.insert name value) rest

/-- The bytes without the mark that a file may begin with. -/
def withoutMark : List UInt8 → List UInt8
  | 0xEF :: 0xBB :: 0xBF :: rest => rest
  | bytes => bytes

/-- Sets what the bytes of a file set. -/
def setBytes (env : Environment) (bytes : List UInt8) : Environment :=
  env.setLines (joined .plain []
    ((byteLines (withoutMark bytes)).map fun line => (Text.ofUtf8? line).map (·.toList)))

def fileName : String := ".env"

/-- The files that may set variables: that of a directory, and those of the directories above it, the
nearest first. -/
def files (directory : List String) : List (List String) :=
  (List.range (directory.length + 1)).reverse.map fun n => directory.take n ++ [fileName]

/-- The bytes of the nearest file that sets variables. -/
def file? (d : Disk) : Option (List UInt8) :=
  (files d.workingDirectory).findSome? fun location =>
    match d.root.descend location with
    | some (.file bytes) => some bytes
    | _ => none

/-- The environment with what the nearest file sets. -/
def withFile (env : Environment) (d : Disk) : Environment :=
  match file? d with
  | some bytes => env.setBytes bytes
  | none => env

end InstallCheck.Environment
