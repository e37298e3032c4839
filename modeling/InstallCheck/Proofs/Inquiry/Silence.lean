import InstallCheck.Proofs.Inquiry.Run
import Mathlib.Data.List.Forall2

/-!
What an inquiry logs has no effect on the rest of it. An inquiry with its reports left out makes the
same lookups with the same answers in every run, so two inquiries that differ in nothing else cannot be
told apart by what they ask and yield.
-/
namespace InstallCheck.Check

namespace Session

/-- The state of a run without what was logged. -/
def silent (s : Session) : Session := { s with events := [] }

variable {s t : Session}

theorem silent_eq_iff :
    s.silent = t.silent ↔ s.limit = t.limit ∧ s.cancelled = t.cancelled ∧ s.calls = t.calls := by
  simp [silent]

theorem silent_log (s : Session) (e : Logging.Event) : (s.log e).silent = s.silent := rfl

/-- A lookup depends on the state of the run but for what was logged. -/
theorem lookup_of_silent_eq (cloud : Cloud) (q : Cloud.Query) (alike : s.silent = t.silent) :
    (s.lookup cloud q).1 = (t.lookup cloud q).1 ∧
      (s.lookup cloud q).2.silent = (t.lookup cloud q).2.silent := by
  obtain ⟨sameLimit, sameFlag, sameCalls⟩ := silent_eq_iff.mp alike
  -- The answer may depend on the limit and on all earlier calls, which the two states have in common.
  cases up : t.cancelled with
  | true =>
    rw [lookup_of_cancelled (sameFlag.trans up), lookup_of_cancelled up]
    exact ⟨rfl, alike⟩
  | false =>
    unfold lookup
    rw [sameLimit, sameFlag, sameCalls, up]
    exact ⟨rfl, rfl⟩

end Session

namespace Inquiry

variable {α β : Type}

/-- An inquiry without its reports. -/
def silent : Inquiry α → Inquiry α
  | done a => done a
  | ask q next => ask q fun r => (next r).silent
  | note _ rest => rest.silent

@[simp] theorem silent_pure (a : α) : (pure a : Inquiry α).silent = pure a := rfl

@[simp] theorem silent_bind (i : Inquiry α) (f : α → Inquiry β) :
    (i >>= f).silent = i.silent >>= fun a => (f a).silent := by
  change (i.bind f).silent = i.silent.bind fun a => (f a).silent
  induction i with
  | done a => rfl
  | ask q next ih => simp only [bind, silent, ih]
  | note e rest ih => exact ih

@[simp] theorem silent_report_bind (e : Logging.Event) (f : Unit → Inquiry β) :
    (report e >>= f).silent = (f ()).silent := rfl

/-- Inquiries of which each differs from another in its reports alone, one after the other. -/
theorem silent_concat_congr {is js : List (Inquiry (List α))}
    (alike : List.Forall₂ (fun i j => i.silent = j.silent) is js) :
    (concat is).silent = (concat js).silent := by
  induction alike with
  | nil => rfl
  | cons first _ ih => simp only [concat, silent_bind, silent_pure, first, ih]

/-- Leaving out the reports changes neither the result of a run nor the state it leaves, but for what
was logged. -/
theorem run_silent (cloud : Cloud) (i : Inquiry α) {s t : Session} (alike : s.silent = t.silent) :
    (i.silent.run cloud s).1 = (i.run cloud t).1 ∧
      (i.silent.run cloud s).2.silent = (i.run cloud t).2.silent := by
  -- Reports make the two states drift apart in their logs, so the statement is about any two such states.
  induction i generalizing s t with
  | done a => exact ⟨rfl, alike⟩
  | note e rest ih => exact ih (alike.trans (t.silent_log e).symm)
  | ask q next ih =>
    obtain ⟨answered, left⟩ := Session.lookup_of_silent_eq cloud q alike
    rw [silent, run_ask, run_ask, answered]
    exact ih _ left

/-- Inquiries that differ in their reports alone have the same runs. -/
theorem run_congr_silent (cloud : Cloud) {i j : Inquiry α} (alike : i.silent = j.silent)
    (s : Session) :
    (i.run cloud s).1 = (j.run cloud s).1 ∧
      (i.run cloud s).2.silent = (j.run cloud s).2.silent := by
  obtain ⟨yields, leaves⟩ := run_silent cloud i (s := s) rfl
  obtain ⟨yieldsToo, leavesToo⟩ := run_silent cloud j (s := s) rfl
  rw [alike] at yields leaves
  exact ⟨yields.symm.trans yieldsToo, leaves.symm.trans leavesToo⟩

end Inquiry

end InstallCheck.Check
