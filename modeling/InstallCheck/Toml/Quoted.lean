import InstallCheck.Toml.Scalar

/-!
The four quoted forms of TOML texts, read after their opening quotes. In a basic text a backslash
begins an escape; a literal text stands for itself; the long forms may run over several lines.
-/
namespace InstallCheck.Toml

/-- Whether a character may not stand in a document except where line breaks may. -/
def isControl (c : Char) : Bool := (c.toNat < 32 && c ≠ '\t') || c.toNat = 127

/-- The character with a code, if there is one. -/
def scalarOfCode (code : Nat) : Option Char :=
  if code.isValidChar then some (Char.ofNat code) else none

/-- The character whose code is written in so many hexadecimal digits, and the rest. -/
def hexEscape (width : Nat) (cs : List Char) : Option (Char × List Char) :=
  let ds := cs.take width
  if ds.length = width ∧ ds.all isHexDigit then
    (scalarOfCode (natOfDigits 16 ds)).map (·, cs.drop width)
  else none

/-- The character of an escape after its backslash, and the rest. -/
def escape? : List Char → Option (Char × List Char)
  | 'b' :: rest => some ('\x08', rest)
  | 't' :: rest => some ('\t', rest)
  | 'n' :: rest => some ('\n', rest)
  | 'f' :: rest => some ('\x0c', rest)
  | 'r' :: rest => some ('\r', rest)
  | 'e' :: rest => some ('\x1b', rest)
  | '"' :: rest => some ('"', rest)
  | '\\' :: rest => some ('\\', rest)
  | 'x' :: rest => hexEscape 2 rest
  | 'u' :: rest => hexEscape 4 rest
  | 'U' :: rest => hexEscape 8 rest
  | _ => none

def isBlank (c : Char) : Bool := c = ' ' || c = '\t'

/-- A text without the line break it begins with; none if it does not begin with one. -/
def afterLineBreak : List Char → Option (List Char)
  | '\n' :: rest => some rest
  | '\r' :: '\n' :: rest => some rest
  | _ => none

/-- A text without the blanks and line breaks it begins with. -/
def skipBlankLines : List Char → List Char
  | ' ' :: rest => skipBlankLines rest
  | '\t' :: rest => skipBlankLines rest
  | '\n' :: rest => skipBlankLines rest
  | '\r' :: '\n' :: rest => skipBlankLines rest
  | rest => rest

/-- What follows a backslash that ends a line: the next text, on whatever line it is. -/
def afterContinuation (cs : List Char) : Option (List Char) :=
  (afterLineBreak (cs.dropWhile isBlank)).map skipBlankLines

/-- A basic text up to its closing quote. -/
def basic : Nat → List Char → Option (List Char × List Char)
  | 0, _ => none
  | fuel + 1, cs =>
    match cs with
    | [] => none
    | '"' :: rest => some ([], rest)
    | '\\' :: rest => do
      let (c, rest) ← escape? rest
      let (more, rest) ← basic fuel rest
      return (c :: more, rest)
    | c :: rest => do
      if isControl c then none
      else
        let (more, rest) ← basic fuel rest
        return (c :: more, rest)

/-- A literal text up to its closing quote. -/
def literal : List Char → Option (List Char × List Char)
  | [] => none
  | '\'' :: rest => some ([], rest)
  | c :: rest => do
    if isControl c then none
    else
      let (more, rest) ← literal rest
      return (c :: more, rest)

/-- What a run of quotes means in a long text: fewer than three belong to the text; three close it,
and up to two more before those belong to it. -/
def closing (quote : Char) (cs : List Char) : Option (List Char × Option (List Char)) :=
  let run := cs.takeWhile (· = quote)
  if run.length < 3 then some (run, none)
  else if run.length ≤ 5 then some (run.drop 3, some (cs.drop run.length))
  else none

/-- A long basic text up to its closing quotes. -/
def longBasic : Nat → List Char → Option (List Char × List Char)
  | 0, _ => none
  | fuel + 1, cs =>
    match cs with
    | [] => none
    | '"' :: _ => do
      match ← closing '"' cs with
      | (own, some rest) => return (own, rest)
      | (own, none) =>
        let (more, rest) ← longBasic fuel (cs.drop own.length)
        return (own ++ more, rest)
    | '\\' :: rest =>
      match afterContinuation rest with
      | some rest => longBasic fuel rest
      | none => do
        let (c, rest) ← escape? rest
        let (more, rest) ← longBasic fuel rest
        return (c :: more, rest)
    | '\n' :: rest => (longBasic fuel rest).map fun (more, rest) => ('\n' :: more, rest)
    | '\r' :: '\n' :: rest =>
      (longBasic fuel rest).map fun (more, rest) => ('\r' :: '\n' :: more, rest)
    | c :: rest => do
      if isControl c then none
      else
        let (more, rest) ← longBasic fuel rest
        return (c :: more, rest)

/-- A long literal text up to its closing quotes. -/
def longLiteral : Nat → List Char → Option (List Char × List Char)
  | 0, _ => none
  | fuel + 1, cs =>
    match cs with
    | [] => none
    | '\'' :: _ => do
      match ← closing '\'' cs with
      | (own, some rest) => return (own, rest)
      | (own, none) =>
        let (more, rest) ← longLiteral fuel (cs.drop own.length)
        return (own ++ more, rest)
    | '\n' :: rest => (longLiteral fuel rest).map fun (more, rest) => ('\n' :: more, rest)
    | '\r' :: '\n' :: rest =>
      (longLiteral fuel rest).map fun (more, rest) => ('\r' :: '\n' :: more, rest)
    | c :: rest => do
      if isControl c then none
      else
        let (more, rest) ← longLiteral fuel rest
        return (c :: more, rest)

/-- A text without the one line break that may follow the opening quotes of a long form. -/
def trimFirstLineBreak (cs : List Char) : List Char := (afterLineBreak cs).getD cs

/-- The quoted text of one line that a text begins with, and what follows. -/
def quotedLine? : List Char → Option (Option (String × List Char))
  | '"' :: rest => some ((basic (rest.length + 1) rest).map fun (s, rest) => (String.ofList s, rest))
  | '\'' :: rest => some ((literal rest).map fun (s, rest) => (String.ofList s, rest))
  | _ => none

/-- The quoted text that a text begins with, and what follows: none if it begins with no quote, and
`some none` if the quoted text is not well formed. -/
def quoted? : List Char → Option (Option (String × List Char))
  | '"' :: '"' :: '"' :: rest =>
    some ((longBasic (rest.length + 1) (trimFirstLineBreak rest)).map fun (s, rest) =>
      (String.ofList s, rest))
  | '\'' :: '\'' :: '\'' :: rest =>
    some ((longLiteral (rest.length + 1) (trimFirstLineBreak rest)).map fun (s, rest) =>
      (String.ofList s, rest))
  | cs => quotedLine? cs

end InstallCheck.Toml
