import InstallCheck.Document.Basic

/-!
JSON text of documents: on one line without blanks, or over several lines indented by two blanks.
-/
namespace InstallCheck.Json

/-- A hexadecimal digit, in lower case. -/
def hexDigit (n : Nat) : Char := Nat.digitChar (n % 16)

/-- A character inside a quoted text. -/
def escape (c : Char) : List Char :=
  if c = '"' then ['\\', '"']
  else if c = '\\' then ['\\', '\\']
  else if c = '\n' then ['\\', 'n']
  else if c = '\r' then ['\\', 'r']
  else if c = '\t' then ['\\', 't']
  else if c = '\x08' then ['\\', 'b']
  else if c = '\x0c' then ['\\', 'f']
  else if c.toNat < 32 then ['\\', 'u', '0', '0', hexDigit (c.toNat / 16), hexDigit c.toNat]
  else [c]

def quote (s : String) : String := "\"" ++ String.ofList (s.toList.flatMap escape) ++ "\""

mutual

def compact : Document → String
  | .null => "null"
  | .bool b => if b then "true" else "false"
  | .integer n => toString n
  | .float x => x.jsonText
  | .text s => quote s
  | .unreadable => "null"
  | .list items | .openList items => "[" ++ compactItems items ++ "]"
  | .record fields => "\x7b" ++ compactFields fields ++ "\x7d"

/-- The items of a list, separated by commas. -/
def compactItems : List Document → String
  | [] => ""
  | [d] => compact d
  | d :: e :: rest => compact d ++ "," ++ compactItems (e :: rest)

/-- The fields of a record, separated by commas. -/
def compactFields : List (String × Document) → String
  | [] => ""
  | [(name, d)] => quote name ++ ":" ++ compact d
  | (name, d) :: f :: rest => quote name ++ ":" ++ compact d ++ "," ++ compactFields (f :: rest)

end

/-- A line break and the blanks that begin a line at a depth. -/
def newLine (depth : Nat) : String := "\n" ++ String.ofList (List.replicate (2 * depth) ' ')

mutual

/-- The text of a document over several lines, the first of which begins at a depth. -/
def prettyAt (depth : Nat) : Document → String
  | .null => "null"
  | .bool b => if b then "true" else "false"
  | .integer n => toString n
  | .float x => x.jsonText
  | .text s => quote s
  | .unreadable => "null"
  | .list [] | .openList [] => "[]"
  | .list (d :: rest) | .openList (d :: rest) => "[" ++ prettyItems depth (d :: rest) ++ newLine depth ++ "]"
  | .record [] => "\x7b\x7d"
  | .record (f :: rest) => "\x7b" ++ prettyFields depth (f :: rest) ++ newLine depth ++ "\x7d"

/-- The items of a list, each on a line of its own. -/
def prettyItems (depth : Nat) : List Document → String
  | [] => ""
  | [d] => newLine (depth + 1) ++ prettyAt (depth + 1) d
  | d :: e :: rest =>
    newLine (depth + 1) ++ prettyAt (depth + 1) d ++ "," ++ prettyItems depth (e :: rest)

/-- The fields of a record, each on a line of its own. -/
def prettyFields (depth : Nat) : List (String × Document) → String
  | [] => ""
  | [(name, d)] => newLine (depth + 1) ++ quote name ++ ": " ++ prettyAt (depth + 1) d
  | (name, d) :: f :: rest =>
    newLine (depth + 1) ++ quote name ++ ": " ++ prettyAt (depth + 1) d ++ "," ++
      prettyFields depth (f :: rest)

end

def pretty (d : Document) : String := prettyAt 0 d

end InstallCheck.Json
