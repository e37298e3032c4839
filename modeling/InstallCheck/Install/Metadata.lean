import InstallCheck.Install.Document

/-!
What tools that take an installation down again need to know about it.
-/
namespace InstallCheck.Install

open Document

/-- Where the resources of a cluster are. -/
structure Metadata where
  region : String
  resourceGroup : Option String
  deriving DecidableEq, Repr

namespace Metadata

/-- The metadata of a cluster with the given install config, if that names a platform. -/
def ofConfig (c : Config) : Option Metadata := c.platform.map fun p => ⟨p.region, p.groupName⟩

def toDocument (m : Metadata) : Document :=
  .record ([("region", .text m.region)] ++
    optionalField "resourceGroupID" .text m.resourceGroup)

def read : Reader Metadata := fun d => do
  let p ← parts ["region", "resourceGroupID"] d
  return ⟨← p.required "region" readText, ← p.optional "resourceGroupID" readText⟩

end Metadata

end InstallCheck.Install
