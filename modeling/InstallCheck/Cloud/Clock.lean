import InstallCheck.Duration

/-!
Clocks and waiting. A clock says when a sleep ends and when a computation ends; neither can end
before it should. A wait looks at the cancellation flag at least every five milliseconds.
-/
namespace InstallCheck.Cloud

/-- A clock, by the moments at which a sleep and a computation begun at some moment end. -/
structure Clock where
  wake : Duration → Duration → Duration
  done : Duration → Duration
  sleeps : ∀ now length, now + length ≤ wake now length
  proceeds : ∀ now, now ≤ done now

namespace Clock

/-- The clock on which a sleep takes exactly as long as asked and a computation 50 nanoseconds. -/
def exact : Clock where
  wake now length := now + length
  done now := now + ⟨50⟩
  sleeps _ _ := Nat.le_refl _
  proceeds _ := Nat.le_add_right _ _

end Clock

namespace Wait

/-- The longest sleep between two looks at the cancellation flag. -/
def interval : Duration := .ofMillis 5

/-- How a wait ends, and when. -/
structure Outcome where
  cancelled : Bool
  looks : Nat
  ended : Duration
  deriving DecidableEq, Repr

/-- Waits from a moment until a deadline, or until the flag is seen. -/
def loop (clock : Clock) (raised : Duration → Bool) (deadline now : Duration) : Outcome :=
  if raised now then ⟨true, 1, now⟩
  else if deadline ≤ now then ⟨false, 1, now⟩
  else
    let pause := min (deadline - now) interval
    let rest := loop clock raised deadline (clock.wake now pause)
    { rest with looks := rest.looks + 1 }
termination_by deadline.nanos - now.nanos
decreasing_by
  rename_i _ unfinished
  have later := clock.sleeps now (min (deadline - now) interval)
  have early : now.nanos < deadline.nanos := Nat.lt_of_not_le unfinished
  have positive : 0 < (min (deadline - now) interval).nanos := by
    show 0 < (if deadline - now ≤ interval then deadline - now else interval).nanos
    split
    · exact Nat.sub_pos_of_lt early
    · decide
  have : now.nanos + (min (deadline - now) interval).nanos ≤
      (clock.wake now (min (deadline - now) interval)).nanos := later
  omega

end Wait

end InstallCheck.Cloud
