import InstallCheck.Proofs.Cloud.Owners
import InstallCheck.Proofs.Lookup.Flags
import Mathlib.Algebra.Order.Floor.Div

/-!
Delayed lookups. A wait looks at the flag, sleeps off what is left of it in pieces of five milliseconds and
ends; on a clock that sleeps too long it only ends sooner. What the caller of a lookup gets is decided by
the flag, then by the length of the delay, then by the time that was taken; the tables count last.
-/
namespace InstallCheck.Cloud

namespace Wait

variable {clock : Clock} {sees : Duration → Bool} {deadline now : Duration} {outcome : Outcome}

/-- A wait look by look. What is left before the deadline is what has to be added to the time that has
gone by, so there is nothing left of a wait that is late. -/
inductive Course (clock : Clock) (sees : Duration → Bool) (deadline : Duration) :
    Duration → Outcome → Prop
  | seen {now : Duration} : sees now = true → Course clock sees deadline now ⟨true, 1, now⟩
  | expired {now : Duration} :
    sees now = false → deadline ≤ now → Course clock sees deadline now ⟨false, 1, now⟩
  | pause {now left : Duration} {rest : Outcome} :
    sees now = false → now + left = deadline → ⟨0⟩ < left →
    Course clock sees deadline (clock.wake now (min left interval)) rest →
    Course clock sees deadline now { rest with looks := rest.looks + 1 }

theorem add_sub_of_not_le (early : ¬ deadline ≤ now) : now + (deadline - now) = deadline := by
  have before : now.nanos ≤ deadline.nanos := Nat.le_of_not_le early
  exact congrArg Duration.mk (Nat.add_sub_of_le before)

theorem sub_of_add {left : Duration} (whole : now + left = deadline) : deadline - now = left := by
  subst whole
  exact congrArg Duration.mk (Nat.add_sub_cancel_left now.nanos left.nanos)

theorem course_loop : Course clock sees deadline now (loop clock sees deadline now) := by
  fun_induction loop clock sees deadline now with
  | case1 now up => exact .seen up
  | case2 now down late => exact .expired (Bool.not_eq_true _ ▸ down) late
  | case3 now down early pause rest ih =>
    have left : ⟨0⟩ < deadline - now := Nat.sub_pos_of_lt (Nat.lt_of_not_le early)
    exact .pause (Bool.not_eq_true _ ▸ down) (add_sub_of_not_le early) left ih

/-- A wait goes one way, and comes to an end. -/
theorem course_iff : Course clock sees deadline now outcome ↔ outcome = loop clock sees deadline now := by
  constructor
  · intro course
    induction course with
    | seen up => rw [loop, if_pos up]
    | expired down late => rw [loop, if_neg (by simp [down]), if_pos late]
    | @pause now left rest down whole some _ ih =>
      have early : ¬ deadline ≤ now := by
        subst whole
        exact Nat.not_le.mpr (Nat.lt_add_of_pos_right some)
      rw [loop, if_neg (by simp [down]), if_neg early, sub_of_add whole]
      dsimp only
      rw [← ih]
  · rintro rfl
    exact course_loop

theorem nanos_min (a b : Duration) : (min a b).nanos = min a.nanos b.nanos := by
  rw [Nat.min_def]
  exact apply_ite Duration.nanos (a ≤ b) a b

/-- A sleep takes five milliseconds off what is left, or all of it, however long it is. -/
theorem left_after_wake (clock : Clock) (deadline now : Duration) :
    (deadline - clock.wake now (min (deadline - now) interval)).nanos ≤
      (deadline - now).nanos - interval.nanos := by
  have awake : now.nanos + (min (deadline - now) interval).nanos ≤
      (clock.wake now (min (deadline - now) interval)).nanos := clock.sleeps _ _
  rw [nanos_min] at awake
  change deadline.nanos - _ ≤ deadline.nanos - now.nanos - _
  change now.nanos + min (deadline.nanos - now.nanos) _ ≤ _ at awake
  omega

/-- There is one look for each piece of what is left, and a last one. -/
theorem looks_le :
    (loop clock sees deadline now).looks ≤ (deadline - now).nanos ⌈/⌉ interval.nanos + 1 := by
  have rounded (n : Nat) : n ⌈/⌉ interval.nanos = (n + 5000000 - 1) / 5000000 := rfl
  fun_induction loop clock sees deadline now with
  | case1 now up => exact Nat.le_add_left 1 _
  | case2 now down late => exact Nat.le_add_left 1 _
  | case3 now down early pause rest ih =>
    have some : 0 < (deadline - now).nanos := Nat.sub_pos_of_lt (Nat.lt_of_not_le early)
    have less := left_after_wake clock deadline now
    have piece : interval.nanos = 5000000 := rfl
    have later : rest.looks ≤
        ((deadline - clock.wake now (min (deadline - now) interval)).nanos + 5000000 - 1) / 5000000 + 1 :=
      ih
    rw [rounded]
    change rest.looks + 1 ≤ _
    omega

end Wait

namespace Account

open Lookup (Board)

variable {a : Account} {clock : Clock} {sees : Duration → Bool} {latency limit : Duration}

/-- A delayed lookup that is not cut short has what the account answers, unless the delay is too long. -/
theorem result_lookup_of_unseen (q : Query) (delayed : a.latency = some latency)
    (unseen : sees (Wait.loop clock sees (min latency limit) ⟨0⟩).ended = false) :
    (a.lookup clock sees limit q).1 =
      if limit < latency then .error (.timeout limit) else a.answer q := by
  simp [lookup, delayed, Wait.cancelled_eq, unseen]

/-- A lookup as a call under a context. By the time the caller looks at the flag again, somebody may have
raised it. -/
def call (a : Account) (clock : Clock) (sees : Duration → Bool) (limit : Duration) (q : Query)
    (context : Nat) (raised : Bool) (b : Board) : q.Result × Duration × Board :=
  let (result, elapsed) := a.lookup clock sees limit q
  (result, elapsed, if raised then b.cancel context else b)

/-- Cancelling through a context is seen by the context. -/
theorem isCancelled_cancel {history : List Board.Step} {context : Nat} {c : Lookup.Context}
    (there : (Board.after history).contexts[context]? = some c) :
    ((Board.after history).cancel context).isCancelled context = true := by
  obtain ⟨inRange, -⟩ := List.getElem?_eq_some_iff.mp there
  obtain ⟨flag, only, -⟩ := Board.exists_held inRange
  have holds : Board.Holds history (.context context) flag := (only flag).mpr rfl
  have after : Board.after (.cancel (.context context) :: history) =
      (Board.after history).cancel context := rfl
  rw [← after, Board.isCancelled_after_iff]
  exact ⟨flag, .keep holds (by simp [Board.Step.Ties]), [], .context context, history, rfl, holds⟩

/-- **A delayed lookup ends, and it ends with the right answer.** On any clock the wait takes no more
looks than there are pieces of five milliseconds in it, and one; it never takes more time off the deadline
than there is. Made under a context, the lookup is cancelled if the flag is raised at any moment until the
caller looks at it last; else it runs into the limit if the delay is longer; else, unless the whole call
took too long, its answer is the one that the account gives without a delay. No account is changed.

The looks at the flag that the wait takes may miss a raising that comes right after them; they never see
one that has not come yet. -/
theorem delayed_lookup_ends {history : List Board.Step} {context : Nat} {c : Lookup.Context}
    (clock : Clock) (sees : Duration → Bool) (raisings : List Duration) (last : Duration) (q : Query)
    (there : (Board.after history).contexts[context]? = some c)
    (delayed : a.latency = some latency)
    (honest : ∀ moment, sees moment = true → ∃ raising ∈ raisings, raising ≤ moment)
    (waited : (Wait.loop clock sees (min latency c.limit) ⟨0⟩).ended ≤ last) :
    let deadline := min latency c.limit
    let wait := Wait.loop clock sees deadline ⟨0⟩
    let raised := raisings.any (· ≤ last)
    (∀ outcome, Wait.Course clock sees deadline ⟨0⟩ outcome ↔ outcome = wait) ∧
    wait.looks ≤ deadline.nanos ⌈/⌉ Wait.interval.nanos + 1 ∧
    ((Board.after history).attempt context (a.call clock sees c.limit q context raised)).1 =
      (if (Board.after history).isCancelled context = true ∨ ∃ raising ∈ raisings, raising ≤ last then
        .error .cancelled
      else if c.limit < latency then .error (.timeout c.limit)
      else if c.limit < (a.lookup clock sees c.limit q).2 then .error (.timeout c.limit)
      else a.answer q) ∧
    (∀ other limit,
      ({ a with latency := none }.lookup other (fun _ => false) limit q).1 = a.answer q) ∧
    ∀ (hs : Handles) handle, (hs.perform (.lookup handle clock sees c.limit q)).2 = hs := by
  intro deadline wait raised
  have outcome := @Board.attempt_of_some _ _ _ _ (a.call clock sees c.limit q context raised) there
  refine ⟨fun _ => Wait.course_iff, Wait.looks_le, ?_, fun _ _ => rfl, fun _ _ => rfl⟩
  rw [outcome]
  by_cases entry : (Board.after history).isCancelled context = true
  · simp only [entry, true_or, if_true]
  by_cases up : ∃ raising ∈ raisings, raising ≤ last
  · have known : raised = true := by simpa [raised] using up
    simp only [entry, up, call, known, isCancelled_cancel there, Lookup.settle, or_true, if_true]
    rfl
  · have unknown : raised = false := by simpa [raised] using up
    have unseen : sees wait.ended = false := by
      rw [Bool.eq_false_iff]
      intro seen
      obtain ⟨raising, member, before⟩ := honest _ seen
      exact up ⟨raising, member, Nat.le_trans before waited⟩
    have answered := result_lookup_of_unseen q delayed unseen
    simp only [entry, up, call, unknown, Lookup.settle, answered, Bool.false_eq_true, if_false, or_self]
    -- A delay that is too long and a call that took too long run into the same limit.
    by_cases tooLong : c.limit < latency
    · simp only [tooLong, if_true, ite_self]
    · simp only [tooLong, if_false]

/-- An account that answers after twelve milliseconds and on which one operation fails. -/
def sluggish : Account where
  state := ∅
  faults := .ofList [("vpc", "connection lost")]
  latency := some (.ofMillis 12)

/-- The wait takes all the looks that it may take, and the answer is the failure; if the flag is raised
behind the last look of the wait, it is cancellation. -/
theorem delayed_lookup_ends_sluggish :
    (Wait.loop .exact (fun _ => false) (.ofMillis 12) ⟨0⟩).looks = 12000000 ⌈/⌉ 5000000 + 1 ∧
    ((Board.after [.newContext]).attempt 0
      (sluggish.call .exact (fun _ => false) (.ofSeconds 60) (.vpc "net" none) 0 false)).1 =
        .error (.transport "vpc" "connection lost") ∧
    ((Board.after [.newContext]).attempt 0
      (sluggish.call .exact (.ofMillis 13 ≤ ·) (.ofSeconds 60) (.vpc "net" none) 0 true)).1 =
        .error .cancelled := by
  have there : (Board.after [.newContext]).contexts[0]? = some ⟨0, .ofSeconds 60⟩ := rfl
  have delayed : sluggish.latency = some (.ofMillis 12) := rfl
  refine ⟨by decide +kernel, ?_, ?_⟩
  · obtain ⟨-, -, result, -⟩ := delayed_lookup_ends .exact (fun _ => false) [] (.ofMillis 13)
      (.vpc "net" none) there delayed (fun _ seen => absurd seen Bool.false_ne_true) (by decide +kernel)
    refine result.trans ?_
    rw [if_neg (by decide), if_neg (by decide), if_neg (by decide +kernel)]
    rfl
  · obtain ⟨-, -, result, -⟩ := delayed_lookup_ends .exact (.ofMillis 13 ≤ ·) [.ofMillis 13]
      (.ofMillis 13) (.vpc "net" none) there delayed
      (fun _ seen => ⟨_, List.mem_singleton_self _, of_decide_eq_true seen⟩) (by decide +kernel)
    refine result.trans (if_pos ?_)
    decide

end Account

end InstallCheck.Cloud
