/-!
Floating-point numbers of 64 bits in exact arithmetic: the number nearest to a decimal, and the
whole number nearest to such a number.
-/
namespace InstallCheck.Decimal

/-- A floating-point number. A finite one is `significand * 2 ^ exponent`, with a significand of
53 bits unless the exponent is the least one, -1074. -/
inductive Binary64
  | nan
  | infinite (negative : Bool)
  | finite (negative : Bool) (significand : Nat) (exponent : Int)
  deriving DecidableEq, Repr, Inhabited

namespace Binary64

/-- Numerator and denominator of a quotient divided by a power of two, which multiplies the one or the
other so that both stay whole. -/
def scaled (numerator denominator : Nat) (exponent : Int) : Nat × Nat :=
  if 0 ≤ exponent then (numerator, denominator * Nat.pow 2 exponent.toNat)
  else (numerator * Nat.pow 2 (-exponent).toNat, denominator)

/-- The whole number nearest to a quotient, the even one of two equally near ones. -/
def divideToEven (numerator denominator : Nat) : Nat :=
  let quotient := numerator / denominator
  let rest := numerator % denominator
  if 2 * rest < denominator then quotient
  else if denominator < 2 * rest then quotient + 1
  else quotient + quotient % 2

/-- The power of two at which a positive quotient has 53 bits before the point, but not below the
least exponent. -/
def exponentOf (numerator denominator : Nat) : Int :=
  let guess : Int := (numerator.log2 : Int) - denominator.log2 - 52
  let (n, d) := scaled numerator denominator guess
  max (-1074) (if n / d < Nat.pow 2 52 then guess - 1 else guess)

/-- The number nearest to a quotient of naturals. -/
def ofRatio (negative : Bool) (numerator denominator : Nat) : Binary64 :=
  if numerator = 0 then .finite negative 0 (-1074)
  else
    let exponent := exponentOf numerator denominator
    let (n, d) := scaled numerator denominator exponent
    let significand := divideToEven n d
    let (significand, exponent) :=
      if significand = Nat.pow 2 53 then (Nat.pow 2 52, exponent + 1) else (significand, exponent)
    if 971 < exponent then .infinite negative else .finite negative significand exponent

/-- The number nearest to `digits * 10 ^ exponent`. Exponents far outside the range of finite
numbers are settled without computing the power. -/
def ofDecimal (negative : Bool) (digits : Nat) (exponent : Int) : Binary64 :=
  if digits = 0 then .finite negative 0 (-1074)
  else if 310 < exponent then .infinite negative
  else if (digits.log2 : Int) + 3 * exponent < -1100 then .finite negative 0 (-1074)
  else if 0 ≤ exponent then ofRatio negative (digits * Nat.pow 10 exponent.toNat) 1
  else ofRatio negative digits (Nat.pow 10 (-exponent).toNat)

/-- The whole number nearest to the absolute value of a finite number, the larger one of two
equally near ones. -/
def roundedMagnitude (significand : Nat) (exponent : Int) : Nat :=
  let (n, d) := scaled significand 1 (-exponent)
  (2 * n + d) / (2 * d)

/-- The whole number from 0 to `limit` that is nearest to a number; 0 stands for no number. -/
def toNatWithin (limit : Nat) : Binary64 → Nat
  | .nan => 0
  | .infinite negative => if negative then 0 else limit
  | .finite negative significand exponent =>
    if negative then 0 else min limit (roundedMagnitude significand exponent)

def isZero : Binary64 → Bool
  | .finite _ significand _ => significand = 0
  | .nan | .infinite _ => false

/-- Whether a number is beyond all finite ones. -/
def isInfinite : Binary64 → Bool
  | .infinite _ => true
  | .nan | .finite .. => false

end Binary64

end InstallCheck.Decimal
