import InstallCheck.Cloud.Change

/-!
Handles of accounts. A cloned handle shares the account of the handle it was cloned from, so that a
change through one is seen through the other; an account that is built from the snapshot of another
one is separate from it.
-/
namespace InstallCheck.Cloud

/-- The accounts made so far, and which of them each handle holds. -/
structure Handles where
  accounts : List Account
  held : List Nat
  deriving DecidableEq

/-- What can be done with handles. -/
inductive Handles.Step
  /-- Makes a handle of an empty account. -/
  | fresh
  /-- Makes a handle that shares the account of another one. -/
  | clone (handle : Nat)
  /-- Makes a handle of an account with the given contents. -/
  | ofSnapshot (contents : Snapshot)
  /-- Makes a handle of an account with the contents of the account of another handle. -/
  | rebuild (handle : Nat)
  /-- Makes a handle of an account with the contents of two. -/
  | merge (handle other : Nat)
  /-- Changes the account of a handle. -/
  | change (handle : Nat) (change : Change)
  deriving DecidableEq

namespace Handles

def empty : Handles := ⟨[], []⟩

/-- The account that a handle holds. -/
def account? (hs : Handles) (handle : Nat) : Option Account := do
  hs.accounts[← hs.held[handle]?]?

/-- Handles with one more, which holds an account of its own. -/
def add (hs : Handles) (a : Account) : Handles :=
  ⟨hs.accounts ++ [a], hs.held ++ [hs.accounts.length]⟩

/-- Handles after a step; a step with a handle that does not exist changes nothing. -/
def apply (hs : Handles) : Step → Handles
  | .fresh => hs.add .empty
  | .clone handle =>
    match hs.held[handle]? with
    | some account => { hs with held := hs.held ++ [account] }
    | none => hs
  | .ofSnapshot contents => hs.add (.ofSnapshot contents)
  | .rebuild handle =>
    match hs.account? handle with
    | some a => hs.add (.ofSnapshot a.state)
    | none => hs
  | .merge handle other =>
    match hs.account? handle, hs.account? other with
    | some a, some b => hs.add (.ofSnapshot (a.state.merge b.state))
    | _, _ => hs
  | .change handle change =>
    match hs.held[handle]? with
    | some account => { hs with accounts := hs.accounts.modify account (·.apply change) }
    | none => hs

end Handles

end InstallCheck.Cloud
