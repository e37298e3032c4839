import InstallCheck.Cloud.Query

/-!
Clouds that behave like another one but for single calls: operations that fail, and runs that are
cancelled during a call.
-/
namespace InstallCheck.Cloud

/-- A cloud on which some operations fail; those calls take no more than an instant. -/
def failing (c : Cloud) (failure : String → Option LookupError) : Cloud := fun limit earlier q =>
  match failure q.operation with
  | some e => ⟨.error e, ⟨50⟩, false⟩
  | none => c limit earlier q

/-- A cloud on which the run is cancelled during one call, counted from 1, after its result is
there. -/
def cancellingAt (c : Cloud) (call : Nat) : Cloud := fun limit earlier q =>
  let reply := c limit earlier q
  { reply with cancels := reply.cancels || earlier.length + 1 = call }

end InstallCheck.Cloud
