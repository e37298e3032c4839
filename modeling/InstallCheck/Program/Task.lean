import InstallCheck.CommandError
import InstallCheck.Files.Tree
import InstallCheck.Logging.Event

/-!
What commands do: they write, log, change files, and may fail. Whatever a command did before it failed
stays done.
-/
namespace InstallCheck.Program

open Files (Disk)
open Logging (Event Level Span)

/-- What has been done: the files as they are now, what was written and what was logged, oldest first. -/
structure Trail where
  disk : Disk
  written : List String
  events : List Event

namespace Trail

/-- Nothing has been done. -/
def start (d : Disk) : Trail := ⟨d, [], []⟩

end Trail

/-- Something that a command does, with a result unless it fails. -/
abbrev Task (α : Type) := ExceptT CommandError (StateM Trail) α

namespace Task

variable {α : Type}

/-- What comes of a task that starts with the given files. -/
def runOn (task : Task α) (t : Trail) : Except CommandError α × Trail := task.run t

/-- The files as they are now. -/
def disk : Task Disk := return (← get).disk

/-- Writes. -/
def write (pieces : List String) : Task Unit :=
  modify fun t => { t with written := t.written ++ pieces }

def log (e : Event) : Task Unit := modify fun t => { t with events := t.events ++ [e] }

def logAll (es : List Event) : Task Unit := modify fun t => { t with events := t.events ++ es }

/-- The result of an operation on files. A failure is reported with what was to be done. -/
def file (message : String) (result : Except Files.Failure α) : Task α :=
  match result with
  | .ok a => return a
  | .error cause => throw (.file message cause)

/-- Changes the files. -/
def setDisk (d : Disk) : Task Unit := modify fun t => { t with disk := d }

/-- A task in the course of an activity, which every event it logs belongs to. -/
def during (span : Span) (task : Task α) : Task α := fun t =>
  let (result, after) := task.run { t with events := [] }
  (result, { after with events := t.events ++ after.events.map (·.within span) })

end Task

end InstallCheck.Program
