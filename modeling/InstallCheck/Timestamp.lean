/-!
Points in time as dates and times of day, at the prime meridian.
-/
namespace InstallCheck

/-- A point in time, in seconds since the start of 1970 and nanoseconds. -/
structure Timestamp where
  seconds : Nat
  nanos : Nat
  deriving DecidableEq, Repr

namespace Timestamp

/-- A number with zeros before it up to a width. -/
def padded (width n : Nat) : String :=
  let digits := Nat.toDigits 10 n
  String.ofList (List.replicate (width - digits.length) '0' ++ digits)

/-- Year, month and day of a day, counted from the start of 1970. Years are taken from March on, so
that a leap day is the last day of its year, and in cycles of 400 years. -/
def date (day : Nat) : Nat × Nat × Nat :=
  let shifted := day + 719468
  let cycle := shifted / 146097
  let ofCycle := shifted % 146097
  let year := (ofCycle - ofCycle / 1460 + ofCycle / 36524 - ofCycle / 146096) / 365
  let ofYear := ofCycle - (365 * year + year / 4 - year / 100)
  let march := (5 * ofYear + 2) / 153
  let month := if march < 10 then march + 3 else march - 9
  (year + 400 * cycle + (if month ≤ 2 then 1 else 0), month, ofYear - (153 * march + 2) / 5 + 1)

/-- A point in time as a text, to the microsecond. -/
def text (t : Timestamp) : String :=
  let (year, month, day) := date (t.seconds / 86400)
  let ofDay := t.seconds % 86400
  padded 4 year ++ "-" ++ padded 2 month ++ "-" ++ padded 2 day ++ "T" ++ padded 2 (ofDay / 3600) ++
    ":" ++ padded 2 (ofDay / 60 % 60) ++ ":" ++ padded 2 (ofDay % 60) ++ "." ++
    padded 6 (t.nanos / 1000) ++ "Z"

end Timestamp

end InstallCheck
