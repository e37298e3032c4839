import InstallCheck.Decimal.Binary64

/-!
Reading whole numbers and floating-point numbers that are written on their own, without blanks.
-/
namespace InstallCheck.Decimal

/-- A sign, if a text begins with one, and the rest: whether the sign is a minus. -/
def leadingSign : List Char → Bool × List Char
  | '-' :: rest => (true, rest)
  | '+' :: rest => (false, rest)
  | rest => (false, rest)

/-- The number that decimal digits stand for; there is at least one. -/
def digits? (cs : List Char) : Option Nat :=
  if cs.isEmpty ∨ !cs.all Char.isDigit then none
  else some (cs.foldl (fun n c => 10 * n + (c.toNat - '0'.toNat)) 0)

/-- A whole number with an optional sign. -/
def integer? (s : String) : Option Int :=
  let (negative, rest) := leadingSign s.toList
  (digits? rest).map fun n => if negative then -n else n

/-- A whole number that is not negative, with an optional plus sign. -/
def natural? (s : String) : Option Nat :=
  match s.toList with
  | '+' :: rest => digits? rest
  | rest => digits? rest

/-- The exponent of a number after the mark that begins it. -/
def power? (cs : List Char) : Option Int :=
  let (negative, rest) := leadingSign cs
  (digits? rest).map fun n => if negative then -n else n

/-- A floating-point number: a decimal with at least one digit before or after its point, and perhaps
an exponent, or a word for infinity or for no number. -/
def float? (s : String) : Option Binary64 := do
  let (negative, rest) := leadingSign s.toList
  let spelled := (String.ofList rest).toLower
  if spelled = "inf" ∨ spelled = "infinity" then return .infinite negative
  if spelled = "nan" then return .nan
  let (mantissa, tail) := rest.span fun c => c ≠ 'e' && c ≠ 'E'
  let (whole, places) := mantissa.span (· ≠ '.')
  let places := places.drop 1
  let value ← digits? (whole ++ places)
  let power ← match tail with
    | [] => some 0
    | _ :: tail => power? tail
  return .ofDecimal negative value (power - places.length)

end InstallCheck.Decimal
