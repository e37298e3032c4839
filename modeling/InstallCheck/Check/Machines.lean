import InstallCheck.Check.Network

/-!
Checks of what a group of machines asks of the cloud. What is not set is not checked.
-/
namespace InstallCheck.Check.Machines

open InstallCheck.Field (Issue Path)

/-- A machine type is offered. -/
def instanceType (name : String) (path : Path) : Inquiry (List Issue) := do
  match ← Inquiry.query .instanceProfiles with
  | .error e => return [.internalError (path.child "type") e.text]
  | .ok profiles =>
    if profiles.any (·.name = name) then return [] else return [.notFound (path.child "type") name]

/-- Every zone is one of the region. -/
def zones (region : String) (declared : List String) (path : Path) : Inquiry (List Issue) := do
  match ← regionZones region with
  | .error e => return [.internalError (path.child "zones") e.text]
  | .ok valid =>
    return (declared.filter (!valid.contains ·)).map fun zone =>
      .invalid (path.child "zones") zone ("zone is not in expected zones: " ++ zoneList valid)

/-- An encryption key exists. -/
def bootVolumeKey (key : String) (path : Path) : Inquiry (List Issue) := do
  match ← Inquiry.query (.encryptionKey key) with
  | .ok _ => return []
  | .error e => return [lookupIssue ((path.child "bootVolume").child "encryptionKey") key e]

def pool (region : String) (s : Install.PoolSettings) (path : Path) : Inquiry (List Issue) :=
  Inquiry.concat
    [match s.typeName with
      | some name => instanceType name path
      | none => return [],
    if s.zones.isEmpty then return [] else zones region s.zones path,
    match s.keyName with
      | some key => bootVolumeKey key path
      | none => return []]

end InstallCheck.Check.Machines
