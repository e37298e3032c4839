import InstallCheck.Toml.Quoted

/-!
Writing names and texts in TOML: without quotes where that is allowed, and otherwise in the form that
needs the fewest escapes.
-/
namespace InstallCheck.Toml

/-- Whether a character has to be an escape in every quoted form. -/
def needsEscape (c : Char) : Bool := isControl c && c ≠ '\n'

/-- A character in a quoted text with escapes. -/
def escapeChar (c : Char) : List Char :=
  if c = '\x08' then ['\\', 'b']
  else if c = '\t' then ['\\', 't']
  else if c = '\n' then ['\\', 'n']
  else if c = '\x0c' then ['\\', 'f']
  else if c = '\r' then ['\\', 'r']
  else if c = '"' then ['\\', '"']
  else if c = '\\' then ['\\', '\\']
  else if isControl c then
    ['\\', 'u', '0', '0', (Nat.digitChar (c.toNat / 16)).toUpper, (Nat.digitChar (c.toNat % 16)).toUpper]
  else [c]

/-- A text in the short form with escapes. -/
def basicText (s : String) : String := "\"" ++ String.ofList (s.toList.flatMap escapeChar) ++ "\""

/-- A text in the short form without escapes. -/
def literalText (s : String) : String := "'" ++ s ++ "'"

/-- The opening of a long form; a line break follows if the text has one. -/
def longOpening (quotes : String) (cs : List Char) : String :=
  if cs.contains '\n' then quotes ++ "\n" else quotes

/-- A text in the long form with escapes; line breaks stand for themselves. -/
def longBasicText (s : String) : String :=
  longOpening "\"\"\"" s.toList ++
    String.ofList (s.toList.flatMap fun c => if c = '\n' then [c] else escapeChar c) ++ "\"\"\""

/-- A text in a long form without escapes. -/
def longPlainText (quotes s : String) : String := longOpening quotes s.toList ++ s ++ quotes

/-- The length of the longest run of a character. -/
def longestRun (c : Char) (cs : List Char) : Nat :=
  (cs.foldl (fun (best, here) d =>
    let here := if d = c then here + 1 else 0
    (max best here, here)) (0, 0)).1

def nameText (s : String) : String :=
  let cs := s.toList
  if !cs.isEmpty && cs.all fun c => c.isAlphanum || c = '_' || c = '-' then s
  else if !cs.any fun c => c = '\\' || c = '"' || isControl c || c = '\n' then basicText s
  else if !cs.any fun c => c = '\'' || isControl c || c = '\n' then literalText s
  else basicText s

def textValue (s : String) : String :=
  let cs := s.toList
  let hasControl := cs.any needsEscape
  if !hasControl && !cs.any fun c => c = '\\' || c = '"' || c = '\n' then basicText s
  else if !hasControl && !cs.any fun c => c = '\'' || c = '\n' then literalText s
  else if !hasControl && !cs.contains '\\' && longestRun '"' cs ≤ 2 then longPlainText "\"\"\"" s
  else if !hasControl && longestRun '\'' cs ≤ 2 then longPlainText "'''" s
  else if cs.contains '\n' then longBasicText s
  else basicText s

end InstallCheck.Toml
