/-!
Lengths of time, to the nanosecond, and their text: the largest unit of which there is at least
one, with the exact decimal fraction and no trailing zeros.
-/
namespace InstallCheck

structure Duration where
  nanos : Nat
  deriving DecidableEq, Repr, Inhabited

namespace Duration

/-- Whole seconds and the nanoseconds beyond them. -/
def ofSecondsNanos (seconds nanos : Nat) : Duration := ⟨seconds * 1000000000 + nanos⟩

def ofSeconds (seconds : Nat) : Duration := ofSecondsNanos seconds 0

def ofMillis (millis : Nat) : Duration := ⟨millis * 1000000⟩

def millis (d : Duration) : Nat := d.nanos / 1000000

instance : LE Duration := ⟨fun a b => a.nanos ≤ b.nanos⟩

instance : LT Duration := ⟨fun a b => a.nanos < b.nanos⟩

instance (a b : Duration) : Decidable (a ≤ b) := inferInstanceAs (Decidable (a.nanos ≤ b.nanos))

instance (a b : Duration) : Decidable (a < b) := inferInstanceAs (Decidable (a.nanos < b.nanos))

instance : Add Duration := ⟨fun a b => ⟨a.nanos + b.nanos⟩⟩

instance : Sub Duration := ⟨fun a b => ⟨a.nanos - b.nanos⟩⟩

instance : Min Duration := ⟨fun a b => if a ≤ b then a else b⟩

/-- The lowest `width` decimal digits of a number, highest first. -/
def lowDigits : Nat → Nat → List Char
  | 0, _ => []
  | width + 1, n => lowDigits width (n / 10) ++ [Nat.digitChar (n % 10)]

/-- A list without the zeros at its end. -/
def dropTrailingZeros (digits : List Char) : List Char :=
  (digits.reverse.dropWhile (· = '0')).reverse

/-- `n / 10 ^ places` as a decimal with no trailing zeros. -/
def decimal (n places : Nat) : String :=
  let fraction := dropTrailingZeros (lowDigits places (n % Nat.pow 10 places))
  toString (n / Nat.pow 10 places) ++
    if fraction.isEmpty then "" else "." ++ String.ofList fraction

/-- A length of time in the largest unit of which it holds at least one. -/
def text (d : Duration) : String :=
  if Nat.pow 10 9 ≤ d.nanos then decimal d.nanos 9 ++ "s"
  else if Nat.pow 10 6 ≤ d.nanos then decimal d.nanos 6 ++ "ms"
  else if Nat.pow 10 3 ≤ d.nanos then decimal d.nanos 3 ++ "µs"
  else decimal d.nanos 0 ++ "ns"

end Duration

end InstallCheck
