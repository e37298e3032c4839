import InstallCheck.NameMap

/-!
The declarative description of an installation: a base domain, the platform it goes to, and the pools
of machines it consists of. An empty identifier names nothing and counts as an absent one.
-/
namespace InstallCheck.Install

/-- An identifier that names something. -/
def nonEmpty (identifier : Option String) : Option String := identifier.filter (· ≠ "")

/-- The disk that machines start from. -/
structure BootVolume where
  encryptionKey : Option String
  deriving DecidableEq, Repr

/-- What a group of machines asks of the cloud. -/
structure PoolSettings where
  instanceType : Option String
  zones : List String
  bootVolume : Option BootVolume
  deriving DecidableEq, Repr

namespace PoolSettings

def typeName (s : PoolSettings) : Option String := nonEmpty s.instanceType

/-- The key that encrypts the boot volumes, if one is named. -/
def keyName (s : PoolSettings) : Option String := s.bootVolume.bind fun v => nonEmpty v.encryptionKey

end PoolSettings

structure MachinePool where
  name : String
  replicas : Option UInt32
  settings : Option PoolSettings
  deriving DecidableEq, Repr

/-- The cloud that an installation goes to. -/
structure Platform where
  region : String
  /-- The DNS service instance that manages the base domain. -/
  dnsInstanceCrn : String
  /-- The image that machines start from. -/
  osImage : String
  resourceGroup : Option String
  /-- A private cloud that exists already. -/
  vpc : Option String
  /-- The resource group of that private cloud. -/
  vpcResourceGroup : Option String
  /-- Subnets that exist already. -/
  subnets : List String
  defaultMachines : Option PoolSettings
  deriving DecidableEq, Repr

namespace Platform

def groupName (p : Platform) : Option String := nonEmpty p.resourceGroup

def vpcName (p : Platform) : Option String := nonEmpty p.vpc

def vpcGroupName (p : Platform) : Option String := nonEmpty p.vpcResourceGroup

/-- Whether the installation goes into a network that exists already. -/
def hasNetwork (p : Platform) : Bool := p.vpcName.isSome || !p.subnets.isEmpty

end Platform

structure Config where
  clusterName : String
  baseDomain : String
  platform : Option Platform
  controlPlane : Option MachinePool
  compute : List MachinePool
  deriving DecidableEq, Repr

end InstallCheck.Install
