import InstallCheck.Lookup.Error

/-!
The conditions under which lookups are made: a time limit and a flag that cancels. Contexts and other
holders may share a flag; raising it through any of them is seen by all. A call is not made once the
flag is up, and its result does not count if the flag is up when it comes back or if it took too long.
-/
namespace InstallCheck.Lookup

/-- The time limit of a lookup unless another one is set. -/
def defaultLimit : Duration := .ofSeconds 60

/-- What a caller gets of a call that was made: cancellation counts before lateness, and lateness before
the result. -/
def settle {α : Type} (limit : Duration) (cancelled : Bool) (elapsed : Duration)
    (result : Except LookupError α) : Except LookupError α :=
  if cancelled then .error .cancelled
  else if limit < elapsed then .error (.timeout limit)
  else result

/-- A flag and a time limit. Flags are numbered in the order in which they are made. -/
structure Context where
  flag : Nat
  limit : Duration
  deriving DecidableEq, Repr

/-- The flags made so far, whether each is up, the flag that each holder holds, and the contexts. -/
structure Board where
  raised : List Bool
  holders : List Nat
  contexts : List Context
  deriving DecidableEq, Repr

/-- A call to be made: its result, how long it takes, and the holders that raise their flags in the
course of it. -/
structure Call (α : Type) where
  result : Except LookupError α
  elapsed : Duration
  raises : List Nat

namespace Board

def empty : Board := ⟨[], [], []⟩

def isRaised (b : Board) (flag : Nat) : Bool := b.raised.getD flag false

def holderSees (b : Board) (holder : Nat) : Bool :=
  match b.holders[holder]? with
  | some flag => b.isRaised flag
  | none => false

def isCancelled (b : Board) (context : Nat) : Bool :=
  match b.contexts[context]? with
  | some c => b.isRaised c.flag
  | none => false

/-- Raises a flag. -/
def raiseFlag (b : Board) (flag : Nat) : Board := { b with raised := b.raised.set flag true }

/-- Makes a flag, and a holder of it. -/
def newFlag (b : Board) : Board :=
  { b with raised := b.raised ++ [false], holders := b.holders ++ [b.raised.length] }

/-- Makes another holder of the flag of a holder. -/
def copyFlag (b : Board) (holder : Nat) : Board :=
  match b.holders[holder]? with
  | some flag => { b with holders := b.holders ++ [flag] }
  | none => b

/-- Makes a holder of the flag of a context. -/
def holdFlag (b : Board) (context : Nat) : Board :=
  match b.contexts[context]? with
  | some c => { b with holders := b.holders ++ [c.flag] }
  | none => b

def raise (b : Board) (holder : Nat) : Board :=
  match b.holders[holder]? with
  | some flag => b.raiseFlag flag
  | none => b

/-- Makes a context with a flag of its own and the usual time limit. -/
def newContext (b : Board) : Board :=
  { b with
    raised := b.raised ++ [false]
    contexts := b.contexts ++ [⟨b.raised.length, defaultLimit⟩] }

/-- Makes a copy of a context, which shares its flag. -/
def copyContext (b : Board) (context : Nat) : Board :=
  match b.contexts[context]? with
  | some c => { b with contexts := b.contexts ++ [c] }
  | none => b

/-- Ties a context to the flag of a holder. -/
def tie (b : Board) (context holder : Nat) : Board :=
  match b.holders[holder]? with
  | some flag => { b with contexts := b.contexts.modify context fun c => { c with flag := flag } }
  | none => b

/-- Sets the time limit of a context. -/
def setLimit (b : Board) (context : Nat) (limit : Duration) : Board :=
  { b with contexts := b.contexts.modify context fun c => { c with limit := limit } }

def cancel (b : Board) (context : Nat) : Board :=
  match b.contexts[context]? with
  | some c => b.raiseFlag c.flag
  | none => b

/-- Makes a call under a context: what the caller gets, and whether the call was made. What a call results
in, how long it takes and what it does to the board may depend on the board that it finds. -/
def attempt {α : Type} (b : Board) (context : Nat)
    (call : Board → Except LookupError α × Duration × Board) : Except LookupError α × Bool × Board :=
  match b.contexts[context]? with
  | none => ((call b).1, false, b)
  | some c =>
    if b.isCancelled context then (.error .cancelled, false, b)
    else
      let (result, elapsed, b) := call b
      (settle c.limit (b.isCancelled context) elapsed result, true, b)

/-- Makes a call that raises some flags under a context. -/
def run {α : Type} (b : Board) (context : Nat) (call : Call α) : Except LookupError α × Bool × Board :=
  b.attempt context fun b => (call.result, call.elapsed, call.raises.foldl raise b)

end Board

end InstallCheck.Lookup
