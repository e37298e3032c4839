import InstallCheck.Proofs.Check.Accounting
import InstallCheck.Proofs.Check.Verdict
import InstallCheck.Proofs.Cloud.Account
import InstallCheck.Proofs.NameMap

/-!
What a check reports when none of its lookups comes to an end, because the run is cancelled before it
begins or because the account is slower than is allowed. Every question that the install config raises
is left open, at the place that raises it; only what the rules find is known.
-/
namespace InstallCheck

namespace Check

open Inquiry
open InstallCheck.Field (Issue Path)
open Install (PoolSettings)

namespace Service

end Service

/-- Every lookup fails for the same reason. -/
abbrev failed (e : LookupError) : (q : Cloud.Query) → q.Result := fun _ => .error e

variable {e : LookupError} {path : Path}

section Checks

variable (interrupted : e.isInterrupted = true)

include interrupted

namespace Service

end Service

end Checks

/-- Why a run gets no answers: it is cancelled already, or its account is slower than is allowed. -/
inductive NoAnswers (cloud : Cloud) (session : Session) : LookupError → Prop
  | cancelled : session.cancelled = true → NoAnswers cloud session .cancelled
  | tooSlow {a : Cloud.Account} {clock : List Cloud.Query → Cloud.Query → Cloud.Clock}
    {latency : Duration} : cloud = a.cloudOn clock → a.latency = some latency →
    session.limit < latency → session.cancelled = false →
    NoAnswers cloud session (.timeout session.limit)

theorem NoAnswers.isInterrupted {cloud : Cloud} {session : Session} (none : NoAnswers cloud session e) :
    e.isInterrupted = true := by
  cases none <;> rfl

namespace Service

variable {s : Service} {session : Session} {c : Install.Config} {p : Install.Platform}

end Service

end Check

end InstallCheck
