import InstallCheck.Toml.Assembly
import InstallCheck.Toml.Quoted
import InstallCheck.Toml.Scalar

/-!
Reading TOML text, line by line: headers that open tables, and values under names. Arrays and tables
within a line may run over several lines, and end with a comma.
-/
namespace InstallCheck.Toml

/-- Whether a character may stand in a name without quotes. -/
def isNameChar (c : Char) : Bool := c.isAlphanum || c = '_' || c = '-'

/-- A text without the blanks it begins with. -/
def skipBlanks (cs : List Char) : List Char := cs.dropWhile isBlank

/-- A single name that a text begins with, and what follows. -/
def simpleName? (cs : List Char) : Option (String × List Char) :=
  match quotedLine? cs with
  | some found => found
  | none =>
    let name := cs.takeWhile isNameChar
    if name.isEmpty then none else some (String.ofList name, cs.drop name.length)

/-- Names joined by dots that a text begins with, and what follows them and the blanks after. -/
def names? : Nat → List Char → Option (List String × List Char)
  | 0, _ => none
  | fuel + 1, cs => do
    let (name, rest) ← simpleName? (skipBlanks cs)
    match skipBlanks rest with
    | '.' :: rest =>
      let (more, rest) ← names? fuel rest
      return (name :: more, rest)
    | rest => return ([name], rest)

/-- A list of names as the last one and those before it. -/
def splitLast (names : List String) : List String × String := (names.dropLast, names.getLastD "")

/-- What follows a comment; the line break after it remains. -/
def afterComment (cs : List Char) : Option (List Char) :=
  let line := cs.takeWhile (· ≠ '\n')
  let text := if line.getLast? = some '\r' ∧ (cs.drop line.length).head? = some '\n' then line.dropLast
    else line
  if text.any isControl then none else some (cs.drop text.length)

/-- What follows blanks, line breaks and comments. -/
def skipLines : Nat → List Char → Option (List Char)
  | 0, _ => none
  | fuel + 1, cs =>
    match skipBlankLines cs with
    | '#' :: rest => afterComment rest >>= skipLines fuel
    | rest => some rest

/-- What follows the end of a line: blanks, and a comment, and then a line break unless the text ends
there. -/
def afterLine (cs : List Char) : Option (List Char) := do
  let rest ← match skipBlanks cs with
    | '#' :: rest => afterComment rest
    | rest => some rest
  if rest.isEmpty then some [] else afterLineBreak rest

/-- Whether a character ends a bare word. -/
def endsWord (c : Char) : Bool :=
  isBlank c || c = '\n' || c = '\r' || c = ',' || c = ']' || c = '\x7d' || c = '#'

/-- The bare word that a text begins with, and what follows. A date may be followed by a time after
one blank. -/
def word (cs : List Char) : List Char × List Char :=
  let first := cs.takeWhile (!endsWord ·)
  let rest := cs.drop first.length
  match date? first, rest with
  | some (_, []), ' ' :: c :: more =>
    if c.isDigit then
      let second := (c :: more).takeWhile (!endsWord ·)
      (first ++ ' ' :: second, (c :: more).drop second.length)
    else (first, rest)
  | _, _ => (first, rest)

/-- How deeply arrays and tables may be nested in a value. -/
def deepest : Nat := 80

mutual

/-- The value that a text begins with, and what follows. -/
def value : Nat → Nat → List Char → Option (Value × List Char)
  | 0, _, _ => none
  | fuel + 1, depth, cs =>
    match quoted? cs with
    | some found => found.map fun (s, rest) => (.text s, rest)
    | none =>
      match cs with
      | '[' :: rest =>
        if depth = 0 then none
        else (arrayItems fuel (depth - 1) rest).map fun (found, rest) => (.array found, rest)
      | '\x7b' :: rest =>
        if depth = 0 then none
        else
          (inlineFields fuel (depth - 1) [] rest).map fun (fields, rest) =>
            (.table (fieldValues fields), rest)
      | cs => do
        let (w, rest) := word cs
        return (← scalar? w, rest)

/-- The items of an array up to its closing bracket. -/
def arrayItems : Nat → Nat → List Char → Option (List Value × List Char)
  | 0, _, _ => none
  | fuel + 1, depth, cs => do
    match ← skipLines (cs.length + 1) cs with
    | ']' :: rest => return ([], rest)
    | cs =>
      let (v, rest) ← value fuel depth cs
      match ← skipLines (rest.length + 1) rest with
      | ',' :: rest =>
        let (more, rest) ← arrayItems fuel depth rest
        return (v :: more, rest)
      | ']' :: rest => return ([v], rest)
      | _ => none

/-- The fields of a table up to its closing brace, added to those found so far. -/
def inlineFields : Nat → Nat → Fields → List Char → Option (Fields × List Char)
  | 0, _, _, _ => none
  | fuel + 1, depth, fields, cs => do
    match ← skipLines (cs.length + 1) cs with
    | '\x7d' :: rest => return (fields, rest)
    | cs =>
      let (names, rest) ← names? (cs.length + 1) cs
      match rest with
      | '=' :: rest =>
        let (v, rest) ← value fuel depth (skipBlanks rest)
        let (outer, name) := splitLast names
        let fields ← fields.insert (!outer.isEmpty) v false outer name
        match ← skipLines (rest.length + 1) rest with
        | ',' :: rest => inlineFields fuel depth fields rest
        | '\x7d' :: rest => return (fields, rest)
        | _ => none
      | _ => none

end

/-- A document that is being read: its fields, and the names of the table that is open. -/
structure State where
  fields : Fields
  table : List String

/-- Reads the header of a further table of a name, after its brackets. -/
def seriesHeader (s : State) (cs : List Char) : Option (State × List Char) := do
  let (names, rest) ← names? (cs.length + 1) cs
  let (outer, name) := splitLast names
  match rest with
  | ']' :: ']' :: rest =>
    return (⟨← s.fields.update (Fields.openSeries name) outer, names⟩, ← afterLine rest)
  | _ => none

/-- Reads the header of a table, after its bracket. -/
def tableHeader (s : State) (cs : List Char) : Option (State × List Char) := do
  let (names, rest) ← names? (cs.length + 1) cs
  let (outer, name) := splitLast names
  match rest with
  | ']' :: rest =>
    return (⟨← s.fields.update (Fields.openTable name) outer, names⟩, ← afterLine rest)
  | _ => none

def assignment (s : State) (cs : List Char) : Option (State × List Char) := do
  let (names, rest) ← names? (cs.length + 1) cs
  let (outer, name) := splitLast names
  match rest with
  | '=' :: rest =>
    let (v, rest) ← value (rest.length + 1) deepest (skipBlanks rest)
    let fields ← s.fields.update (Fields.insert (!outer.isEmpty) v false outer name) s.table
    return ({ s with fields }, ← afterLine rest)
  | _ => none

def lines : Nat → State → List Char → Option State
  | 0, _, _ => none
  | fuel + 1, s, cs => do
    match ← skipLines (cs.length + 1) cs with
    | [] => return s
    | '[' :: '[' :: rest =>
      let (s, rest) ← seriesHeader s rest
      lines fuel s rest
    | '[' :: rest =>
      let (s, rest) ← tableHeader s rest
      lines fuel s rest
    | cs =>
      let (s, rest) ← assignment s cs
      lines fuel s rest

/-- The document that a whole text holds, which may begin with a byte order mark. -/
def parse (text : String) : Option Value :=
  let cs := match text.toList with
    | '\ufeff' :: rest => rest
    | cs => cs
  (lines (cs.length + 1) ⟨[], []⟩ cs).map fun s => .table (fieldValues s.fields)

end InstallCheck.Toml
