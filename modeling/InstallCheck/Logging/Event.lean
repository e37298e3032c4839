/-!
Log events: what happened, how important it is, and in the course of which activities.
-/
namespace InstallCheck.Logging

/-- How important an event is, most important first. -/
inductive Level
  | error
  | warn
  | info
  | debug
  | trace
  deriving DecidableEq, Repr

/-- The rank of a level; a higher one is less important. -/
def Level.rank : Level → Nat
  | error => 1
  | warn => 2
  | info => 3
  | debug => 4
  | trace => 5

/-- An activity that events belong to, with the part of the program it is reported by. -/
structure Span where
  target : String
  name : String
  fields : List (String × String)
  deriving DecidableEq, Repr

/-- Something that happened; the outermost activity comes first. -/
structure Event where
  target : String
  level : Level
  message : String
  fields : List (String × String)
  spans : List Span
  deriving DecidableEq, Repr

namespace Event

/-- An event outside of any activity. -/
def plain (target : String) (level : Level) (message : String) (fields : List (String × String)) :
    Event :=
  ⟨target, level, message, fields, []⟩

/-- An event in the course of one more activity, around all others. -/
def within (span : Span) (e : Event) : Event := { e with spans := span :: e.spans }

end Event

end InstallCheck.Logging
