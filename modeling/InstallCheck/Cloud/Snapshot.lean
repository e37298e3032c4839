import InstallCheck.Cloud.Resource

/-!
Everything that is known about a cloud account: the zones of its regions and tables of its resources.
Snapshots can be merged; the tables of a merged snapshot are those of the first followed by those of
the second.
-/
namespace InstallCheck.Cloud

open Document

structure Snapshot where
  zones : NameMap (List String)
  resourceGroups : List ResourceGroup
  dnsInstances : List DnsInstance
  dnsZones : List DnsZone
  images : List Image
  vpcs : List Vpc
  subnets : List Subnet
  instanceProfiles : List InstanceProfile
  encryptionKeys : List EncryptionKey
  deriving DecidableEq

namespace Snapshot

/-- The snapshot of an account without resources. -/
def empty : Snapshot := ⟨∅, [], [], [], [], [], [], [], []⟩

instance : EmptyCollection Snapshot := ⟨empty⟩

instance : Inhabited Snapshot := ⟨empty⟩

/-- The tables of both snapshots; the zones of a region are those of the second one, if it has the
region. -/
def merge (s t : Snapshot) : Snapshot where
  zones := s.zones.union t.zones
  resourceGroups := s.resourceGroups ++ t.resourceGroups
  dnsInstances := s.dnsInstances ++ t.dnsInstances
  dnsZones := s.dnsZones ++ t.dnsZones
  images := s.images ++ t.images
  vpcs := s.vpcs ++ t.vpcs
  subnets := s.subnets ++ t.subnets
  instanceProfiles := s.instanceProfiles ++ t.instanceProfiles
  encryptionKeys := s.encryptionKeys ++ t.encryptionKeys

/-- A list of instances to which the owner of a zone is added, if it is not there. -/
def addOwner (instances : List DnsInstance) (z : DnsZone) : List DnsInstance :=
  if instances.any (·.crn = z.instanceCrn) then instances
  else instances ++ [⟨z.instanceCrn, z.instanceName⟩]

/-- A snapshot that lists the owner of each of its zones. -/
def registerZoneOwners (s : Snapshot) : Snapshot :=
  { s with dnsInstances := s.dnsZones.foldl addOwner s.dnsInstances }

/-- The names of the fields of a snapshot document. -/
def fieldNames : List String :=
  ["zones", "resource_groups", "cis_instances", "dns_zones", "images", "vpcs", "subnets",
    "instance_profiles", "encryption_keys"]

/-- A table as a field of a snapshot document. -/
def table {α : Type} (name : String) (row : α → Document) (rows : List α) : String × Document :=
  (name, .list (rows.map row))

def toDocument (s : Snapshot) : Document :=
  .record [("zones", ofNameMap texts s.zones),
    table "resource_groups" ResourceGroup.toDocument s.resourceGroups,
    table "cis_instances" DnsInstance.toDocument s.dnsInstances,
    table "dns_zones" DnsZone.toDocument s.dnsZones,
    table "images" Image.toDocument s.images,
    table "vpcs" Vpc.toDocument s.vpcs,
    table "subnets" Subnet.toDocument s.subnets,
    table "instance_profiles" InstanceProfile.toDocument s.instanceProfiles,
    table "encryption_keys" EncryptionKey.toDocument s.encryptionKeys]

/-- Reads a snapshot; a table that is missing is empty. -/
def read : Reader Snapshot := fun d => do
  let p ← parts fieldNames d
  return {
    zones := ← p.orElse "zones" ∅ (readNameMap (readList readText))
    resourceGroups := ← p.orElse "resource_groups" [] (readList ResourceGroup.read)
    dnsInstances := ← p.orElse "cis_instances" [] (readList DnsInstance.read)
    dnsZones := ← p.orElse "dns_zones" [] (readList DnsZone.read)
    images := ← p.orElse "images" [] (readList Image.read)
    vpcs := ← p.orElse "vpcs" [] (readList Vpc.read)
    subnets := ← p.orElse "subnets" [] (readList Subnet.read)
    instanceProfiles := ← p.orElse "instance_profiles" [] (readList InstanceProfile.read)
    encryptionKeys := ← p.orElse "encryption_keys" [] (readList EncryptionKey.read) }

end Snapshot

end InstallCheck.Cloud
