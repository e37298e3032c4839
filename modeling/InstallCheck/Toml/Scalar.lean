import InstallCheck.Toml.Value

/-!
The bare words of TOML: truth values, whole numbers in four bases, floating-point numbers, dates and
times. A word is given as its characters and stands for a value or for none.
-/
namespace InstallCheck.Toml

/-- Digits of a base in which single underscores may stand between two digits: without the
underscores, if the list is such a sequence. -/
def separatedDigits (isDigit : Char → Bool) : List Char → Option (List Char)
  | [] => none
  | [c] => if isDigit c then some [c] else none
  | c :: '_' :: rest =>
    if isDigit c then (separatedDigits isDigit rest).map (c :: ·) else none
  | c :: d :: rest =>
    if isDigit c then (separatedDigits isDigit (d :: rest)).map (c :: ·) else none

/-- The value of a digit in a base of up to sixteen. -/
def digitValue (c : Char) : Nat :=
  if c.isDigit then c.toNat - '0'.toNat
  else if 'a' ≤ c ∧ c ≤ 'f' then c.toNat - 'a'.toNat + 10
  else c.toNat - 'A'.toNat + 10

/-- The number that digits of a base stand for. -/
def natOfDigits (base : Nat) (ds : List Char) : Nat :=
  ds.foldl (fun n c => base * n + digitValue c) 0

/-- Whether a character is a digit of base sixteen. -/
def isHexDigit (c : Char) : Bool :=
  c.isDigit || ('a' ≤ c && c ≤ 'f') || ('A' ≤ c && c ≤ 'F')

/-- A sign, if a word begins with one, and the rest: whether the sign is a minus. -/
def splitSign : List Char → Bool × List Char
  | '-' :: rest => (true, rest)
  | '+' :: rest => (false, rest)
  | rest => (false, rest)

/-- Decimal digits without a leading zero. -/
def wholePart (cs : List Char) : Option (List Char) := do
  let ds ← separatedDigits Char.isDigit cs
  if ds.head? = some '0' ∧ ds.length ≠ 1 then none else some ds

/-- A whole number: decimal with an optional sign, or with the mark of another base and no sign. -/
def integer? : List Char → Option Int
  | '0' :: 'x' :: rest => (separatedDigits isHexDigit rest).map fun ds => natOfDigits 16 ds
  | '0' :: 'o' :: rest =>
    (separatedDigits (fun c => '0' ≤ c && c ≤ '7') rest).map fun ds => natOfDigits 8 ds
  | '0' :: 'b' :: rest =>
    (separatedDigits (fun c => c = '0' || c = '1') rest).map fun ds => natOfDigits 2 ds
  | word => do
    let (negative, rest) := splitSign word
    let ds ← wholePart rest
    return if negative then -(natOfDigits 10 ds : Int) else natOfDigits 10 ds

/-- Whether a character begins the exponent of a number. -/
def isExponentMark (c : Char) : Bool := c = 'e' || c = 'E'

/-- A floating-point number: infinity, no number, or a decimal with a fraction or an exponent. One
that is too large for a finite number is refused. -/
def float? (word : List Char) : Option Decimal.Binary64 := do
  let (negative, rest) := splitSign word
  if rest = ['i', 'n', 'f'] then return .infinite negative
  if rest = ['n', 'a', 'n'] then return .nan
  let (mantissa, tail) := rest.span (!isExponentMark ·)
  let (whole, places) := mantissa.span (· ≠ '.')
  let whole ← wholePart whole
  let places ← match places with
    | [] => some []
    | _ :: places => separatedDigits Char.isDigit places
  let power ← match tail with
    | [] => some (0 : Int)
    | _ :: tail =>
      let (negative, ds) := splitSign tail
      (separatedDigits Char.isDigit ds).map fun ds =>
        if negative then -(natOfDigits 10 ds : Int) else natOfDigits 10 ds
  let x := Decimal.Binary64.ofDecimal negative (natOfDigits 10 (whole ++ places))
    (power - places.length)
  if x.isInfinite then none else return x

/-- A number of exactly so many digits that a text begins with, and the rest. -/
def fixedDigits (width : Nat) (cs : List Char) : Option (Nat × List Char) :=
  let ds := cs.take width
  if ds.length = width ∧ ds.all Char.isDigit then some (natOfDigits 10 ds, cs.drop width) else none

/-- What follows a character that a text has to begin with. -/
def after (c : Char) : List Char → Option (List Char)
  | d :: rest => if c = d then some rest else none
  | [] => none

/-- The number of days of a month. -/
def daysOfMonth (year month : Nat) : Nat :=
  if month = 2 then
    if year % 4 = 0 ∧ (year % 100 ≠ 0 ∨ year % 400 = 0) then 29 else 28
  else if month = 4 ∨ month = 6 ∨ month = 9 ∨ month = 11 then 30
  else 31

/-- A calendar date that a text begins with: its text, and the rest. -/
def date? (cs : List Char) : Option (List Char × List Char) := do
  let (year, rest) ← fixedDigits 4 cs
  let rest ← after '-' rest
  let (month, rest) ← fixedDigits 2 rest
  let rest ← after '-' rest
  let (day, rest) ← fixedDigits 2 rest
  if 1 ≤ month ∧ month ≤ 12 ∧ 1 ≤ day ∧ day ≤ daysOfMonth year month then
    some (cs.take 10, rest)
  else none

/-- A list without the zeros at its end. -/
def dropTrailingZeros (ds : List Char) : List Char := (ds.reverse.dropWhile (· = '0')).reverse

/-- The seconds of a time, with a fraction of up to nine places that count: their text, and the
rest. Seconds may be left out. -/
def seconds? : List Char → Option (List Char × List Char)
  | ':' :: cs => do
    let (second, rest) ← fixedDigits 2 cs
    if 60 < second then none
    else
      match rest with
      | '.' :: rest =>
        let (places, rest) := rest.span Char.isDigit
        if places.isEmpty then none
        else
          let places := dropTrailingZeros (places.take 9)
          return (':' :: cs.take 2 ++ (if places.isEmpty then [] else '.' :: places), rest)
      | rest => return (':' :: cs.take 2, rest)
  | rest => some ([], rest)

/-- A time of day that a text begins with: its text, and the rest. -/
def time? (cs : List Char) : Option (List Char × List Char) := do
  let (hour, rest) ← fixedDigits 2 cs
  let rest ← after ':' rest
  let (minute, rest) ← fixedDigits 2 rest
  let (seconds, rest) ← seconds? rest
  if hour ≤ 23 ∧ minute ≤ 59 then some (cs.take 5 ++ seconds, rest) else none

/-- An offset from universal time that makes up a whole text. -/
def offset? : List Char → Option (List Char)
  | [] => some []
  | [c] => if c = 'Z' ∨ c = 'z' then some ['Z'] else none
  | sign :: cs => do
    let (hours, rest) ← fixedDigits 2 cs
    let rest ← after ':' rest
    let (minutes, rest) ← fixedDigits 2 rest
    if (sign = '+' ∨ sign = '-') ∧ hours ≤ 23 ∧ minutes ≤ 59 ∧ rest.isEmpty then
      some (sign :: cs)
    else none

/-- A date, a time, or both with an optional offset, in the form in which it is shown. -/
def datetime? (word : List Char) : Option String :=
  match date? word with
  | some (date, []) => some (String.ofList date)
  | some (date, mark :: rest) => do
    if mark = 'T' ∨ mark = 't' ∨ mark = ' ' then
      let (time, rest) ← time? rest
      let offset ← offset? rest
      return String.ofList (date ++ 'T' :: time ++ offset)
    else none
  | none =>
    match time? word with
    | some (time, []) => some (String.ofList time)
    | _ => none

/-- The range of whole numbers that a document may hold. -/
def isRepresentable (n : Int) : Bool := -Int.pow 2 127 ≤ n && n < Int.pow 2 128

/-- The value of a bare word. -/
def scalar? (word : List Char) : Option Value :=
  if word = ['t', 'r', 'u', 'e'] then some (.bool true)
  else if word = ['f', 'a', 'l', 's', 'e'] then some (.bool false)
  else
    match integer? word with
    | some n => if isRepresentable n then some (.integer n) else none
    | none =>
      match datetime? word with
      | some s => some (.datetime s)
      | none => (float? word).map .float

end InstallCheck.Toml
