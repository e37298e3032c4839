import InstallCheck.Proofs.Check.Accounting
import InstallCheck.Proofs.Inquiry.Interruption

/-!
A check that is cancelled while a lookup is under way is cut off cleanly: it reports what it would
report if that lookup and all later ones were answered with a cancellation, and asks nothing more.
-/
namespace InstallCheck.Check.Service

open InstallCheck.Field (Issue Path)

/-- A service whose runs are cancelled during one call, counted from 1. -/
def cancellingAt (s : Service) (call : Nat) : Service :=
  { s with cloud := s.cloud.cancellingAt call }

/-- A service whose lookups are reported as cancelled from one call on, counted from 1. -/
def interruptedFrom (s : Service) (call : Nat) : Service :=
  { s with cloud := s.cloud.interruptedFrom call }

variable {s : Service} {session : Session} {c : Install.Config} {p : Install.Platform}

/-- An undisturbed check makes at least one lookup. -/
theorem calls_ne_nil {limit : Duration} (given : c.platform = some p)
    (calm : (s.check (.start limit false) c).2.Undisturbed s.cloud) :
    (s.check (.start limit false) c).2.calls ≠ [] := by
  obtain ⟨_, _, _, _, accounted⟩ := check_accounted given calm
  intro none
  rw [none] at accounted
  exact accounted.answered_ne_nil rfl

/-- A check to which some lookup is reported as cancelled finds issues. -/
theorem report_ne_nil_of_interrupted {limit : Duration} {call : Nat} {report : List Issue}
    (given : c.platform = some p) (positive : 0 < call)
    (calm : ((s.interruptedFrom call).check (.start limit false) c).2.Undisturbed s.cloud)
    (checked : ((s.interruptedFrom call).check (.start limit false) c).1 = .ok report)
    (reached : call ≤ ((s.interruptedFrom call).check (.start limit false) c).2.calls.length) :
    report ≠ [] := by
  obtain ⟨_, _, _, same, accounted⟩ :=
    check_accounted (s := s.interruptedFrom call) given
      (Session.undisturbed_interruptedFrom.mpr calm)
  cases checked.symm.trans same
  generalize ((s.interruptedFrom call).check (.start limit false) c).2.calls = calls at *
  -- The lookup at that place of the calls is in the transcript, and it failed.
  obtain ⟨n, rfl⟩ : ∃ n, call = n + 1 := Nat.exists_eq_add_one.mpr positive
  have split : calls = calls.take n ++ calls[n] :: calls.drop (n + 1) := by
    rw [← List.drop_eq_getElem_cons, List.take_append_drop]
  have answered : (s.cloud.interruptedFrom (n + 1) limit ([] ++ calls.take n) calls[n]).result =
      .error .cancelled := by
    apply Cloud.interruptedFrom_after
    simp only [List.nil_append, List.length_take]
    omega
  have member : ⟨calls[n], .error .cancelled⟩ ∈
      transcript (s.interruptedFrom (n + 1)).cloud limit [] calls :=
    mem_transcript.mpr ⟨_, _, split, answered.symm⟩
  exact accounted.report_ne_nil member rfl

theorem check_cancellingAt {limit : Duration} {call : Nat} (given : c.platform = some p)
    (calm : ((s.interruptedFrom (max call 1)).check (.start limit false) c).2.Undisturbed s.cloud) :
    ((s.cancellingAt call).check (.start limit (call = 0)) c).1 =
        ((s.interruptedFrom (max call 1)).check (.start limit false) c).1 ∧
      ((s.cancellingAt call).check (.start limit (call = 0)) c).2.calls =
        ((s.interruptedFrom (max call 1)).check (.start limit false) c).2.calls.take call ∧
      ((s.cancellingAt call).check (.start limit (call = 0)) c).2.calls =
        (s.check (.start limit false) c).2.calls.take call := by
  simp only [check_of_platform given] at calm ⊢
  obtain ⟨result, upToCut, upToLeft⟩ := Inquiry.run_start_cancellingAt _ calm
  exact ⟨congrArg Except.ok result, upToCut, upToLeft⟩

/-- **Cancellation is a clean cut.** A check whose run is cancelled during a call, or before it starts if
that is call 0, reports what it reports when that call and every later one are answered with a
cancellation; the lookups it makes are the first ones of that check, and of the check left alone. If the
call is reached at all, the config is not accepted. -/
theorem check_cancelled_is_cut_off {limit : Duration} {call : Nat} (given : c.platform = some p)
    (calm : ((s.interruptedFrom (max call 1)).check (.start limit false) c).2.Undisturbed s.cloud) :
    ∃ report,
      ((s.cancellingAt call).check (.start limit (call = 0)) c).1 = .ok report ∧
      ((s.interruptedFrom (max call 1)).check (.start limit false) c).1 = .ok report ∧
      ((s.cancellingAt call).check (.start limit (call = 0)) c).2.calls =
        ((s.interruptedFrom (max call 1)).check (.start limit false) c).2.calls.take call ∧
      ((s.cancellingAt call).check (.start limit (call = 0)) c).2.calls =
        (s.check (.start limit false) c).2.calls.take call ∧
      (call ≤ (s.check (.start limit false) c).2.calls.length → report ≠ [] ∧
        ((s.cancellingAt call).validate (.start limit (call = 0)) c).1 =
          .error (.issues report)) := by
  obtain ⟨same, upToCut, upToLeft⟩ := check_cancellingAt given calm
  obtain ⟨report, checked⟩ : ∃ report,
      ((s.interruptedFrom (max call 1)).check (.start limit false) c).1 = .ok report :=
    ⟨_, congrArg Prod.fst (check_of_platform given)⟩
  refine ⟨report, same.trans checked, checked, upToCut, upToLeft, fun reached => ?_⟩
  -- Both runs agree on the first calls, and an interrupted run makes at least one.
  have made := calls_ne_nil given (Session.undisturbed_interruptedFrom.mpr calm)
  have reachedToo : max call 1 ≤
      ((s.interruptedFrom (max call 1)).check (.start limit false) c).2.calls.length := by
    have alike := congrArg List.length (upToCut.symm.trans upToLeft)
    rw [List.length_take, List.length_take] at alike
    have := List.length_pos_iff.mpr made
    omega
  have found := report_ne_nil_of_interrupted given (Nat.le_max_right call 1) calm checked reachedToo
  refine ⟨found, ?_⟩
  rw [validate_of_check (same.trans checked), if_neg found]

/-- A run that is cancelled during its fourth call makes no fifth one and accepts nothing. -/
theorem check_cancelled_in_fourth_call :
    Sample.config.platform = some Sample.platform ∧
    ((Sample.service.interruptedFrom (max 4 1)).check (.start (.ofSeconds 60) false)
      Sample.config).2.Undisturbed Sample.service.cloud ∧
    ∃ report, report ≠ [] ∧
      ((Sample.service.cancellingAt 4).check (.start (.ofSeconds 60) false) Sample.config).1 =
        .ok report ∧
      ((Sample.service.interruptedFrom 4).check (.start (.ofSeconds 60) false) Sample.config).1 =
        .ok report ∧
      ((Sample.service.cancellingAt 4).check (.start (.ofSeconds 60) false)
        Sample.config).2.calls.length = 4 ∧
      ((Sample.service.cancellingAt 4).validate (.start (.ofSeconds 60) false) Sample.config).1 =
        .error (.issues report) := by
  refine ⟨rfl, Sample.undisturbed_weary, ?_⟩
  have reached :
      4 ≤ (Sample.service.check (.start (.ofSeconds 60) false) Sample.config).2.calls.length := by
    decide +kernel
  obtain ⟨report, cut, interrupted, -, made, rejected⟩ :=
    @check_cancelled_is_cut_off Sample.service Sample.config Sample.platform (.ofSeconds 60) 4
      rfl Sample.undisturbed_weary
  obtain ⟨nonempty, refused⟩ := rejected reached
  refine ⟨report, nonempty, cut, interrupted, ?_, refused⟩
  have length := congrArg List.length made
  rw [List.length_take, Nat.min_eq_left reached] at length
  exact length

end InstallCheck.Check.Service
