import InstallCheck.Decimal.Binary64

/-!
The shortest decimal that is nearest to a floating-point number, and two ways to write it.
-/
namespace InstallCheck.Decimal

/-- A decimal `digits * 10 ^ exponent`. -/
structure Scientific where
  digits : Nat
  exponent : Int
  deriving DecidableEq, Repr

namespace Shortest

/-- Compares `a * 2 ^ p` with a decimal by bringing both to whole numbers. -/
def compareScaled (a : Nat) (p : Int) (d : Scientific) : Ordering :=
  compare (a * Nat.pow 2 p.toNat * Nat.pow 10 (-d.exponent).toNat)
    (d.digits * Nat.pow 2 (-p).toNat * Nat.pow 10 d.exponent.toNat)

/-- Whether a decimal reads back as `significand * 2 ^ exponent`: it lies between the midpoints to
the two neighbouring numbers, ends included when the significand is even. -/
def readsBack (significand : Nat) (exponent : Int) (d : Scientific) : Bool :=
  let narrowBelow := significand = Nat.pow 2 52 ∧ -1074 < exponent
  -- in quarters of a unit of the last place
  let lower := if narrowBelow then 4 * significand - 1 else 4 * significand - 2
  let upper := 4 * significand + 2
  let fromBelow := compareScaled lower (exponent - 2) d
  let fromAbove := compareScaled upper (exponent - 2) d
  if significand % 2 = 0 then fromBelow ≠ .gt ∧ fromAbove ≠ .lt
  else fromBelow = .lt ∧ fromAbove = .gt

/-- The two decimals with the given last place around a number, lower first, and whether the upper
one is nearer. -/
def neighbours (significand : Nat) (exponent place : Int) : Scientific × Scientific × Bool :=
  let numerator := significand * Nat.pow 2 exponent.toNat * Nat.pow 10 (-place).toNat
  let denominator := Nat.pow 2 (-exponent).toNat * Nat.pow 10 place.toNat
  let below := numerator / denominator
  (⟨below, place⟩, ⟨below + 1, place⟩, denominator < 2 * (numerator % denominator))

/-- The power of ten of the highest decimal digit of a positive number. -/
def highestPlace (significand : Nat) (exponent : Int) : Int :=
  let numerator := significand * Nat.pow 2 exponent.toNat
  let denominator := Nat.pow 2 (-exponent).toNat
  if denominator ≤ numerator then (Nat.toDigits 10 (numerator / denominator)).length - 1
  else
    Int.negOfNat (Nat.toDigits 10 ((denominator - 1) / numerator)).length

/-- Tries ever finer last places until one of the two decimals around the number reads back. -/
def search (significand : Nat) (exponent : Int) : Nat → Int → Scientific
  | 0, place => (neighbours significand exponent place).1
  | fuel + 1, place =>
    let (below, above, upperNearer) := neighbours significand exponent place
    let belowFits := readsBack significand exponent below
    let aboveFits := readsBack significand exponent above
    if belowFits && !(aboveFits && upperNearer) then below
    else if aboveFits then above
    else search significand exponent fuel (place - 1)

/-- A decimal without zeros at the end of its digits. -/
def trim : Nat → Scientific → Scientific
  | 0, d => d
  | fuel + 1, d =>
    if d.digits ≠ 0 ∧ d.digits % 10 = 0 then trim fuel ⟨d.digits / 10, d.exponent + 1⟩ else d

/-- The shortest decimal that reads back as `significand * 2 ^ exponent`, nearest to it among those
of its length. -/
def ofFinite (significand : Nat) (exponent : Int) : Scientific :=
  if significand = 0 then ⟨0, 0⟩
  else trim 400 (search significand exponent 20 (highestPlace significand exponent + 1))

end Shortest

/-- A decimal with a point and no exponent. -/
def positional (d : Scientific) (wholeSuffix : String) : String :=
  let digits := Nat.toDigits 10 d.digits
  if 0 ≤ d.exponent then
    String.ofList (digits ++ List.replicate d.exponent.toNat '0') ++ wholeSuffix
  else
    let places := (-d.exponent).toNat
    let padded := List.replicate (places + 1 - digits.length) '0' ++ digits
    let whole := padded.length - places
    String.ofList (padded.take whole) ++ "." ++ String.ofList (padded.drop whole)

/-- A decimal with one digit before the point and an exponent. -/
def exponential (d : Scientific) : String :=
  let digits := Nat.toDigits 10 d.digits
  let power := d.exponent + (digits.length - 1 : Nat)
  let fraction := digits.drop 1
  String.ofList (digits.take 1) ++
    (if fraction.isEmpty then "" else "." ++ String.ofList fraction) ++ "e" ++ toString power

namespace Binary64

/-- The text of a number in a message: all digits written out, and no point in a whole number. -/
def text : Binary64 → String
  | .nan => "NaN"
  | .infinite negative => if negative then "-inf" else "inf"
  | .finite negative significand exponent =>
    (if negative then "-" else "") ++ positional (Shortest.ofFinite significand exponent) ""

/-- The text of a number in a JSON document: positional when the point falls within the digits or at
most five zeros before them, and always with a point or an exponent. Numbers that are not finite
have no text there and are written as null. -/
def jsonText : Binary64 → String
  | .nan | .infinite _ => "null"
  | .finite negative significand exponent =>
    let d := Shortest.ofFinite significand exponent
    let length : Int := (Nat.toDigits 10 d.digits).length
    let point := length + d.exponent
    (if negative then "-" else "") ++
      if -5 < point ∧ point ≤ 16 then positional d ".0" else exponential d

end Binary64

end InstallCheck.Decimal
