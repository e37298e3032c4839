import InstallCheck.Cloud.Variation
import InstallCheck.Proofs.Inquiry.Run

/-!
Cancelling a run during one of its lookups cuts it off there: what it yields is what it would yield if
that lookup and every later one were answered with a cancellation, and the lookups made are the first
ones of either run.
-/
namespace InstallCheck

namespace Cloud

/-- A cloud on which every lookup from one call on, counted from 1, is reported as cancelled. -/
def interruptedFrom (c : Cloud) (call : Nat) : Cloud := fun limit earlier q =>
  if earlier.length + 1 < call then c limit earlier q
  else { c limit earlier q with result := .error .cancelled }

variable {c : Cloud} {call : Nat} {limit : Duration} {earlier : List Query} {q : Query}

theorem interruptedFrom_before (before : earlier.length + 1 < call) :
    c.interruptedFrom call limit earlier q = c limit earlier q := if_pos before

theorem interruptedFrom_after (after : call ≤ earlier.length + 1) :
    (c.interruptedFrom call limit earlier q).result = .error .cancelled := by
  rw [interruptedFrom, if_neg (Nat.not_lt.mpr after)]

theorem cancellingAt_before (before : earlier.length + 1 < call) :
    c.cancellingAt call limit earlier q = c limit earlier q := by
  have other : earlier.length + 1 ≠ call := Nat.ne_of_lt before
  simp [cancellingAt, other]

theorem cancels_cancellingAt (now : earlier.length + 1 = call) :
    (c.cancellingAt call limit earlier q).cancels = true := by
  simp [cancellingAt, now]

end Cloud

namespace Check

open Cloud (Query Reply)

@[simp] theorem timely_interruptedFrom {c : Cloud} {call : Nat} {limit bound : Duration}
    {earlier : List Query} {q : Query} :
    Timely bound (c.interruptedFrom call limit earlier q) ↔ Timely bound (c limit earlier q) := by
  unfold Cloud.interruptedFrom
  split <;> rfl

@[simp] theorem Session.undisturbed_interruptedFrom {c : Cloud} {call : Nat} {s : Session} :
    s.Undisturbed (c.interruptedFrom call) ↔ s.Undisturbed c := by
  simp [Session.Undisturbed]

theorem Session.lookup_congr {c d : Cloud} {s : Session} {q : Query}
    (alike : c s.limit s.calls q = d s.limit s.calls q) : s.lookup c q = s.lookup d q := by
  simp [lookup, alike]

namespace Inquiry

variable {α : Type} {c : Cloud} {call : Nat}

/-- From the call on at which lookups are interrupted, nothing but cancellations is learnt. -/
theorem run_interruptedFrom (i : Inquiry α) {s : Session} (down : s.cancelled = false)
    (after : call ≤ s.calls.length + 1)
    (calm : (i.run (c.interruptedFrom call) s).2.Undisturbed c) :
    (i.run (c.interruptedFrom call) s).1 = i.value (fun _ => .error .cancelled) := by
  obtain ⟨calls, -, course⟩ :=
    i.run_of_undisturbed down (Session.undisturbed_interruptedFrom.mpr calm)
  apply course.eq_value
  intro x member
  obtain ⟨before, -, -, answered⟩ := mem_transcript.mp member
  rw [answered]
  apply Cloud.interruptedFrom_after
  rw [List.length_append]
  omega

/-- A run cancelled during a call that is still to come, the run in which that call and all later
ones are reported as cancelled, and the run left alone make the same lookups up to that call. -/
theorem run_cancellingAt (i : Inquiry α) {s : Session} (down : s.cancelled = false)
    (toCome : s.calls.length < call)
    (calm : (i.run (c.interruptedFrom call) s).2.Undisturbed c) :
    (i.run (c.cancellingAt call) s).1 = (i.run (c.interruptedFrom call) s).1 ∧
      (i.run (c.cancellingAt call) s).2.calls =
        (i.run (c.interruptedFrom call) s).2.calls.take call ∧
      (i.run (c.cancellingAt call) s).2.calls = (i.run c s).2.calls.take call := by
  induction i generalizing s with
  | done a =>
    have all : s.calls = s.calls.take call := (List.take_of_length_le (Nat.le_of_lt toCome)).symm
    exact ⟨rfl, all, all⟩
  | note e rest ih => exact ih (s := s.log e) down toCome calm
  | ask q next ih =>
    simp only [run_ask] at calm ⊢
    rcases Nat.lt_or_eq_of_le toCome with before | now
    -- Before the call all three runs make the same lookup and come to the same state.
    · have first : s.lookup (c.cancellingAt call) q = s.lookup c q :=
        Session.lookup_congr (Cloud.cancellingAt_before before)
      have second : s.lookup (c.interruptedFrom call) q = s.lookup c q :=
        Session.lookup_congr (Cloud.interruptedFrom_before before)
      rw [second] at calm
      rw [first, second]
      have timely := timely_of_undisturbed _ down calm
      apply ih _ ((Session.lookup_cancelled down).trans timely.1) _ calm
      rw [Session.lookup_calls down, List.length_append]
      exact before
    -- At the call the flag is up in one run and the answer is a cancellation in the other, and from
    -- here on both learn nothing but cancellations. The third run is only asked for its first calls.
    · have timely := timely_of_undisturbed _ down calm
      have cut : (s.lookup (c.cancellingAt call) q).1 = .error .cancelled :=
        Session.lookup_raised down (Cloud.cancels_cancellingAt now)
      have reported : (s.lookup (c.interruptedFrom call) q).1 = .error .cancelled := by
        rw [Session.lookup_result down (timely_interruptedFrom.mpr timely)]
        exact Cloud.interruptedFrom_after (Nat.le_of_eq now.symm)
      have raised : (s.lookup (c.cancellingAt call) q).2.cancelled = true :=
        (Session.lookup_cancelled down).trans (Cloud.cancels_cancellingAt now)
      have stillDown : (s.lookup (c.interruptedFrom call) q).2.cancelled = false :=
        (Session.lookup_cancelled down).trans (timely_interruptedFrom.mpr timely).1
      have past : call ≤ (s.lookup (c.interruptedFrom call) q).2.calls.length + 1 := by
        rw [Session.lookup_calls down, List.length_append]
        omega
      have upTo (d : Cloud) (rest : Inquiry α) :
          s.calls ++ [q] = (rest.run d (s.lookup d q).2).2.calls.take call := by
        obtain ⟨later, made⟩ := prefix_run_calls d rest (s.lookup d q).2
        rw [← made, Session.lookup_calls down, List.take_left' (by simpa using now)]
      obtain ⟨learnt, made⟩ := run_of_cancelled (c.cancellingAt call)
        (next (s.lookup (c.cancellingAt call) q).1) raised
      rw [Session.lookup_calls down] at made
      rw [learnt, run_interruptedFrom _ stillDown past calm, made, cut, reported]
      exact ⟨rfl, upTo _ _, upTo _ _⟩

/-- A run from its beginning that is cancelled during a call, or before it begins if that is call 0. -/
theorem run_start_cancellingAt (i : Inquiry α) {limit : Duration}
    (calm : (i.run (c.interruptedFrom (max call 1)) (.start limit false)).2.Undisturbed c) :
    (i.run (c.cancellingAt call) (.start limit (call = 0))).1 =
        (i.run (c.interruptedFrom (max call 1)) (.start limit false)).1 ∧
      (i.run (c.cancellingAt call) (.start limit (call = 0))).2.calls =
        (i.run (c.interruptedFrom (max call 1)) (.start limit false)).2.calls.take call ∧
      (i.run (c.cancellingAt call) (.start limit (call = 0))).2.calls =
        (i.run c (.start limit false)).2.calls.take call := by
  cases call with
  | zero =>
    -- Call 0 is the flag being up before the run: it makes no lookup, and the other run learns nothing.
    have cut := i.run_of_cancelled (c.cancellingAt 0) (s := .start limit true) rfl
    have reported := i.run_interruptedFrom (s := .start limit false) rfl (Nat.le_refl 1) calm
    exact ⟨cut.1.trans reported.symm, cut.2, cut.2⟩
  | succ n =>
    rw [Nat.max_eq_left (Nat.succ_le_succ (Nat.zero_le n))] at calm ⊢
    exact i.run_cancellingAt (s := .start limit false) rfl (Nat.succ_pos n) calm

end Inquiry

end Check

end InstallCheck
