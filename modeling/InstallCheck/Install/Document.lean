import InstallCheck.Document.Basic
import InstallCheck.Install.Config

/-!
The documents that hold install configs. What is absent is left out, and so are empty lists of subnets
and zones; whatever is left out is absent or empty again when the document is read.
-/
namespace InstallCheck.Install

open Document

def BootVolume.toDocument (v : BootVolume) : Document :=
  .record (optionalField "encryptionKey" .text v.encryptionKey)

def BootVolume.read : Reader BootVolume := fun d => do
  let p ← parts ["encryptionKey"] d
  return ⟨← p.optional "encryptionKey" readText⟩

def PoolSettings.toDocument (s : PoolSettings) : Document :=
  .record (optionalField "type" .text s.instanceType ++ textsField "zones" s.zones ++
    optionalField "bootVolume" BootVolume.toDocument s.bootVolume)

def PoolSettings.read : Reader PoolSettings := fun d => do
  let p ← parts ["type", "zones", "bootVolume"] d
  return ⟨← p.optional "type" readText, ← p.orElse "zones" [] (readList readText),
    ← p.optional "bootVolume" BootVolume.read⟩

def sectionDocument {α : Type} (write : α → Document) (settings : Option α) : Document :=
  .record (optionalField "ibmcloud" write settings)

def readSection {α : Type} (settings : Reader α) : Reader (Option α) := fun d => do
  let p ← parts ["ibmcloud"] d
  p.optional "ibmcloud" settings

def countDocument (n : UInt32) : Document := .integer n.toNat

def MachinePool.toDocument (m : MachinePool) : Document :=
  .record ([("name", .text m.name)] ++ optionalField "replicas" countDocument m.replicas ++
    [("platform", sectionDocument PoolSettings.toDocument m.settings)])

def MachinePool.read : Reader MachinePool := fun d => do
  let p ← parts ["name", "replicas", "platform"] d
  return ⟨← p.orElse "name" "" readText, ← p.optional "replicas" readUInt32,
    ← p.orElse "platform" none (readSection PoolSettings.read)⟩

def Platform.toDocument (p : Platform) : Document :=
  .record ([("region", .text p.region), ("cisInstanceCRN", .text p.dnsInstanceCrn),
      ("clusterOSImage", .text p.osImage)] ++
    optionalField "resourceGroup" .text p.resourceGroup ++
    optionalField "vpc" .text p.vpc ++
    optionalField "vpcResourceGroup" .text p.vpcResourceGroup ++
    textsField "subnets" p.subnets ++
    optionalField "defaultMachinePlatform" PoolSettings.toDocument p.defaultMachines)

def Platform.read : Reader Platform := fun d => do
  let p ← parts ["region", "cisInstanceCRN", "clusterOSImage", "resourceGroup", "vpc",
    "vpcResourceGroup", "subnets", "defaultMachinePlatform"] d
  return {
    region := ← p.orElse "region" "" readText
    dnsInstanceCrn := ← p.orElse "cisInstanceCRN" "" readText
    osImage := ← p.orElse "clusterOSImage" "" readText
    resourceGroup := ← p.optional "resourceGroup" readText
    vpc := ← p.optional "vpc" readText
    vpcResourceGroup := ← p.optional "vpcResourceGroup" readText
    subnets := ← p.orElse "subnets" [] (readList readText)
    defaultMachines := ← p.optional "defaultMachinePlatform" PoolSettings.read }

def readClusterName : Reader String := fun d => do
  let p ← parts ["name"] d
  p.orElse "name" "" readText

def Config.toDocument (c : Config) : Document :=
  .record ([("metadata", .record [("name", .text c.clusterName)]),
      ("baseDomain", .text c.baseDomain),
      ("platform", sectionDocument Platform.toDocument c.platform)] ++
    optionalField "controlPlane" MachinePool.toDocument c.controlPlane ++
    [("compute", .list (c.compute.map MachinePool.toDocument))])

def Config.read : Reader Config := fun d => do
  let p ← parts ["metadata", "baseDomain", "platform", "controlPlane", "compute"] d
  return {
    clusterName := ← p.orElse "metadata" "" readClusterName
    baseDomain := ← p.orElse "baseDomain" "" readText
    platform := ← p.orElse "platform" none (readSection Platform.read)
    controlPlane := ← p.optional "controlPlane" MachinePool.read
    compute := ← p.orElse "compute" [] (readList MachinePool.read) }

end InstallCheck.Install
