import InstallCheck.Cloud.Query
import InstallCheck.Logging.Event
import InstallCheck.Lookup.Context

/-!
Computations that look things up in a cloud. An inquiry says what it asks next depending on the
answers so far; running it against a cloud gives its result, the lookups that were made and what was
logged. What an inquiry asks is fixed by the answers alone.
-/
namespace InstallCheck.Check

open Cloud (Query Reply)
open Logging (Event)

/-- A computation that looks things up in a cloud. -/
inductive Inquiry (α : Type)
  | done (value : α)
  /-- Asks, and goes on with the result. -/
  | ask (q : Query) (next : q.Result → Inquiry α)
  /-- Logs an event. -/
  | note (event : Event) (rest : Inquiry α)

/-- The state of a run: its time limit, whether it is cancelled, the lookups made and the events logged
so far, oldest first. -/
structure Session where
  limit : Duration
  cancelled : Bool
  calls : List Query
  events : List Event
  deriving DecidableEq

namespace Session

def start (limit : Duration) (cancelled : Bool) : Session := ⟨limit, cancelled, [], []⟩

def log (s : Session) (e : Event) : Session := { s with events := s.events ++ [e] }

def lookupTarget : String := "preflight_core::application::context"

/-- The report that a lookup was not made. -/
def skipped (q : Query) : Event :=
  .plain lookupTarget .debug "run cancelled, skipping lookup"
    [("operation", "\"" ++ q.operation ++ "\"")]

/-- The report that a lookup has come back. -/
def finished {q : Query} (r : Reply q) : Event :=
  .plain lookupTarget .debug "lookup finished"
    [("operation", "\"" ++ q.operation ++ "\""), ("elapsed_ms", toString r.elapsed.millis),
      ("ok", if r.result.isOk then "true" else "false")]

/-- Makes a lookup, unless the run is cancelled. -/
def lookup (cloud : Cloud) (s : Session) (q : Query) : q.Result × Session :=
  if s.cancelled then (.error .cancelled, s.log (skipped q))
  else
    let reply := cloud s.limit s.calls q
    (Lookup.settle s.limit reply.cancels reply.elapsed reply.result,
      { s with cancelled := reply.cancels, calls := s.calls ++ [q] }.log (finished reply))

end Session

namespace Inquiry

variable {α β : Type}

/-- Goes on with the result of an inquiry. -/
def bind : Inquiry α → (α → Inquiry β) → Inquiry β
  | done a, f => f a
  | ask q next, f => ask q fun r => (next r).bind f
  | note e rest, f => note e (rest.bind f)

instance : Monad Inquiry where
  pure := done
  bind := bind

def query (q : Query) : Inquiry q.Result := ask q done

def report (e : Event) : Inquiry Unit := note e (done ())

/-- Inquiries one after the other, and their results one after the other. -/
def concat : List (Inquiry (List α)) → Inquiry (List α)
  | [] => done []
  | i :: rest => do
    let first ← i
    let others ← concat rest
    return first ++ others

/-- The result of an inquiry against a cloud, and the state it leaves. -/
def run (cloud : Cloud) : Inquiry α → Session → α × Session
  | done a, s => (a, s)
  | ask q next, s =>
    let (r, s) := s.lookup cloud q
    (next r).run cloud s
  | note e rest, s => rest.run cloud (s.log e)

theorem run_bind (cloud : Cloud) (i : Inquiry α) (f : α → Inquiry β) (s : Session) :
    (i >>= f).run cloud s = (f (i.run cloud s).1).run cloud (i.run cloud s).2 := by
  change (i.bind f).run cloud s = _
  induction i generalizing s with
  | done a => rfl
  | ask q next ih => simp [bind, run, ih]
  | note e rest ih => simp [bind, run, ih]

end Inquiry

end InstallCheck.Check
