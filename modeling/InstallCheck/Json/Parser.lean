import InstallCheck.Document.Basic

/-!
Reading JSON text. Fields of an object stay in the order written, repetitions included. A text
escape may name half of a surrogate pair; such a text is well formed, so that it can stand in a part
nobody reads, but it has no value.
-/
namespace InstallCheck.Json

/-- A blank between the parts of a JSON text. -/
def isBlank (c : Char) : Bool := c = ' ' || c = '\n' || c = '\t' || c = '\r'

/-- A text without the blanks it begins with. -/
def skipBlanks (cs : List Char) : List Char := cs.dropWhile isBlank

/-- The value of a hexadecimal digit. -/
def hexValue? (c : Char) : Option Nat :=
  if '0' ≤ c ∧ c ≤ '9' then some (c.toNat - '0'.toNat)
  else if 'a' ≤ c ∧ c ≤ 'f' then some (c.toNat - 'a'.toNat + 10)
  else if 'A' ≤ c ∧ c ≤ 'F' then some (c.toNat - 'A'.toNat + 10)
  else none

/-- What one element of a quoted text stands for: a character, or a unit of UTF-16. -/
inductive Element
  | char (c : Char)
  | unit (value : Nat)
  deriving DecidableEq, Repr

/-- The character that a letter after a backslash stands for. -/
def escaped? : Char → Option Char
  | '"' => some '"'
  | '\\' => some '\\'
  | '/' => some '/'
  | 'b' => some '\x08'
  | 'f' => some '\x0c'
  | 'n' => some '\n'
  | 'r' => some '\r'
  | 't' => some '\t'
  | _ => none

/-- The elements of a quoted text after its opening quote, and what follows its closing quote. -/
def elements : List Char → Option (List Element × List Char)
  | [] => none
  | '"' :: rest => some ([], rest)
  | '\\' :: 'u' :: a :: b :: c :: d :: rest => do
    let unit := ((← hexValue? a) * 16 + (← hexValue? b)) * 256 + (← hexValue? c) * 16 + (← hexValue? d)
    let (found, rest) ← elements rest
    return (.unit unit :: found, rest)
  | '\\' :: c :: rest => do
    let char ← escaped? c
    let (found, rest) ← elements rest
    return (.char char :: found, rest)
  | c :: rest => do
    if c.toNat < 32 ∨ c = '\\' then none
    else
      let (found, rest) ← elements rest
      return (.char c :: found, rest)

/-- Whether a unit of UTF-16 begins a surrogate pair. -/
def isHighSurrogate (u : Nat) : Bool := 0xD800 ≤ u && u < 0xDC00

/-- Whether a unit of UTF-16 ends a surrogate pair. -/
def isLowSurrogate (u : Nat) : Bool := 0xDC00 ≤ u && u < 0xE000

/-- The characters that elements stand for, unless one of them is half of a pair without the other
half. -/
def characters? : List Element → Option (List Char)
  | [] => some []
  | .char c :: rest => (characters? rest).map (c :: ·)
  | .unit high :: .unit low :: rest =>
    if isHighSurrogate high then
      if isLowSurrogate low then
        (characters? rest).map
          (Char.ofNat (0x10000 + (high - 0xD800) * 0x400 + (low - 0xDC00)) :: ·)
      else none
    else if isLowSurrogate high then none
    else (characters? (.unit low :: rest)).map (Char.ofNat high :: ·)
  | .unit u :: rest =>
    if isHighSurrogate u || isLowSurrogate u then none
    else (characters? rest).map (Char.ofNat u :: ·)

/-- A quoted text after its opening quote: its value, if it has one, and what follows. -/
def quoted (cs : List Char) : Option (Option String × List Char) :=
  (elements cs).map fun (found, rest) => ((characters? found).map String.ofList, rest)

/-- The digits a text begins with, and what follows. -/
def digits (cs : List Char) : List Char × List Char := cs.span Char.isDigit

/-- The number that a list of decimal digits stands for. -/
def natOfDigits (ds : List Char) : Nat := ds.foldl (fun n c => 10 * n + (c.toNat - '0'.toNat)) 0

/-- The fraction of a number, if one follows. -/
def fraction : List Char → Option (List Char × List Char)
  | '.' :: rest =>
    let (ds, rest) := digits rest
    if ds.isEmpty then none else some (ds, rest)
  | rest => some ([], rest)

/-- The exponent of a number, if one follows. -/
def exponent : List Char → Option (Option Int × List Char)
  | c :: rest =>
    if c = 'e' ∨ c = 'E' then
      let (negative, rest) :=
        match rest with
        | '-' :: rest => (true, rest)
        | '+' :: rest => (false, rest)
        | rest => (false, rest)
      let (ds, rest) := digits rest
      if ds.isEmpty then none
      else some (some (if negative then -(natOfDigits ds : Int) else natOfDigits ds), rest)
    else some (none, c :: rest)
  | [] => some (none, [])

/-- Whether a whole number fits into 64 bits, with a sign if it is negative. -/
def isRepresentable (n : Int) : Bool := -Int.pow 2 63 ≤ n && n < Int.pow 2 64

/-- A number after its sign: digits without a leading zero, a fraction and an exponent. One with
neither of the two is a whole number if it is not negative zero and fits into 64 bits. -/
def number (negative : Bool) (cs : List Char) : Option (Document × List Char) := do
  let (whole, rest) := digits cs
  if whole.isEmpty ∨ (whole.head? = some '0' ∧ whole.length ≠ 1) then none
  else
    let (places, rest) ← fraction rest
    let (power, rest) ← exponent rest
    let value := natOfDigits (whole ++ places)
    let float := Decimal.Binary64.ofDecimal negative value (power.getD 0 - places.length)
    let integer : Int := if negative then -value else value
    let isWhole := places.isEmpty && power.isNone && !(negative && value = 0)
    return (if isWhole && isRepresentable integer then .integer integer else .float float, rest)

/-- What follows a word that a text has to begin with. -/
def afterWord : List Char → List Char → Option (List Char)
  | [], cs => some cs
  | w :: word, c :: cs => if w = c then afterWord word cs else none
  | _ :: _, [] => none

/-- An object with the given fields, of which some may have names without a value. -/
def object (fields : List (Option String × Document)) : Document :=
  match fields.mapM fun f => f.1.map (·, f.2) with
  | some fields => .record fields
  | none => .unreadable

mutual

/-- The value a text begins with, blanks aside, and what follows it. -/
def value : Nat → List Char → Option (Document × List Char)
  | 0, _ => none
  | fuel + 1, cs =>
    match skipBlanks cs with
    | 'n' :: rest => (afterWord ['u', 'l', 'l'] rest).map (Document.null, ·)
    | 't' :: rest => (afterWord ['r', 'u', 'e'] rest).map (Document.bool true, ·)
    | 'f' :: rest => (afterWord ['a', 'l', 's', 'e'] rest).map (Document.bool false, ·)
    | '"' :: rest => do
      let (s, rest) ← quoted rest
      return (match s with | some s => .text s | none => .unreadable, rest)
    | '-' :: rest => number true rest
    | '[' :: rest =>
      match skipBlanks rest with
      | ']' :: rest => some (.list [], rest)
      | rest => do
        let (items, rest) ← items fuel rest
        return (.list items, rest)
    | '\x7b' :: rest =>
      match skipBlanks rest with
      | '\x7d' :: rest => some (.record [], rest)
      | rest => do
        let (fields, rest) ← fields fuel rest
        return (object fields, rest)
    | rest => number false rest

/-- The items of a list up to its closing bracket, at least one. -/
def items : Nat → List Char → Option (List Document × List Char)
  | 0, _ => none
  | fuel + 1, cs => do
    let (d, rest) ← value fuel cs
    match skipBlanks rest with
    | ',' :: rest =>
      let (more, rest) ← items fuel rest
      return (d :: more, rest)
    | ']' :: rest => return ([d], rest)
    | _ => none

/-- The fields of an object up to its closing brace, at least one. -/
def fields : Nat → List Char → Option (List (Option String × Document) × List Char)
  | 0, _ => none
  | fuel + 1, cs =>
    match skipBlanks cs with
    | '"' :: rest => do
      let (name, rest) ← quoted rest
      match skipBlanks rest with
      | ':' :: rest =>
        let (d, rest) ← value fuel rest
        match skipBlanks rest with
        | ',' :: rest =>
          let (more, rest) ← fields fuel rest
          return ((name, d) :: more, rest)
        | '\x7d' :: rest => return ([(name, d)], rest)
        | _ => none
      | _ => none
    | _ => none

end

/-- The document that a whole text holds. Every step consumes a character, so the length of the text
bounds their number. -/
def parse (text : String) : Option Document :=
  let cs := text.toList
  match value (cs.length + 1) cs with
  | some (d, rest) => if (skipBlanks rest).isEmpty then some d else none
  | none => none

end InstallCheck.Json
