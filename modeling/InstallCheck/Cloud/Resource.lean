import InstallCheck.Document.Basic

/-!
The resources of a cloud account, and the documents that hold them.
-/
namespace InstallCheck.Cloud

open Document

structure ResourceGroup where
  id : String
  name : String
  deriving DecidableEq, Repr

/-- Whether a text is the id or the name of a group. -/
def ResourceGroup.answersTo (g : ResourceGroup) (idOrName : String) : Bool :=
  g.id = idOrName || g.name = idOrName

structure DnsInstance where
  crn : String
  name : String
  deriving DecidableEq, Repr

/-- A DNS zone and the service instance that manages it. -/
structure DnsZone where
  id : String
  name : String
  instanceCrn : String
  instanceName : String
  deriving DecidableEq, Repr

structure Image where
  id : String
  name : String
  region : String
  deriving DecidableEq, Repr

structure Vpc where
  id : String
  name : String
  resourceGroupId : String
  deriving DecidableEq, Repr

/-- Whether a text is the id or the name of a virtual private cloud. -/
def Vpc.answersTo (v : Vpc) (idOrName : String) : Bool := v.id = idOrName || v.name = idOrName

/-- A subnet, which lies in one zone. -/
structure Subnet where
  id : String
  name : String
  zone : String
  vpcId : String
  deriving DecidableEq, Repr

structure InstanceProfile where
  name : String
  cpus : UInt32
  memoryGiB : UInt32
  deriving DecidableEq, Repr

structure EncryptionKey where
  id : String
  name : String
  deriving DecidableEq, Repr

def ResourceGroup.toDocument (g : ResourceGroup) : Document :=
  .record [("id", .text g.id), ("name", .text g.name)]

def ResourceGroup.read : Reader ResourceGroup := fun d => do
  let p ← parts ["id", "name"] d
  return ⟨← p.required "id" readText, ← p.required "name" readText⟩

def DnsInstance.toDocument (i : DnsInstance) : Document :=
  .record [("crn", .text i.crn), ("name", .text i.name)]

def DnsInstance.read : Reader DnsInstance := fun d => do
  let p ← parts ["crn", "name"] d
  return ⟨← p.required "crn" readText, ← p.required "name" readText⟩

def DnsZone.toDocument (z : DnsZone) : Document :=
  .record [("id", .text z.id), ("name", .text z.name), ("cis_instance_crn", .text z.instanceCrn),
    ("cis_instance_name", .text z.instanceName)]

def DnsZone.read : Reader DnsZone := fun d => do
  let p ← parts ["id", "name", "cis_instance_crn", "cis_instance_name"] d
  return ⟨← p.required "id" readText, ← p.required "name" readText,
    ← p.required "cis_instance_crn" readText, ← p.required "cis_instance_name" readText⟩

def Image.toDocument (i : Image) : Document :=
  .record [("id", .text i.id), ("name", .text i.name), ("region", .text i.region)]

def Image.read : Reader Image := fun d => do
  let p ← parts ["id", "name", "region"] d
  return ⟨← p.required "id" readText, ← p.required "name" readText, ← p.required "region" readText⟩

def Vpc.toDocument (v : Vpc) : Document :=
  .record [("id", .text v.id), ("name", .text v.name), ("resource_group_id", .text v.resourceGroupId)]

def Vpc.read : Reader Vpc := fun d => do
  let p ← parts ["id", "name", "resource_group_id"] d
  return ⟨← p.required "id" readText, ← p.required "name" readText,
    ← p.required "resource_group_id" readText⟩

def Subnet.toDocument (s : Subnet) : Document :=
  .record [("id", .text s.id), ("name", .text s.name), ("zone", .text s.zone),
    ("vpc_id", .text s.vpcId)]

def Subnet.read : Reader Subnet := fun d => do
  let p ← parts ["id", "name", "zone", "vpc_id"] d
  return ⟨← p.required "id" readText, ← p.required "name" readText, ← p.required "zone" readText,
    ← p.required "vpc_id" readText⟩

def InstanceProfile.toDocument (p : InstanceProfile) : Document :=
  .record [("name", .text p.name), ("vcpu", .integer p.cpus.toNat),
    ("memory_gib", .integer p.memoryGiB.toNat)]

def InstanceProfile.read : Reader InstanceProfile := fun d => do
  let p ← parts ["name", "vcpu", "memory_gib"] d
  return ⟨← p.required "name" readText, ← p.required "vcpu" readUInt32,
    ← p.required "memory_gib" readUInt32⟩

def EncryptionKey.toDocument (k : EncryptionKey) : Document :=
  .record [("id", .text k.id), ("name", .text k.name)]

def EncryptionKey.read : Reader EncryptionKey := fun d => do
  let p ← parts ["id", "name"] d
  return ⟨← p.required "id" readText, ← p.required "name" readText⟩

end InstallCheck.Cloud
