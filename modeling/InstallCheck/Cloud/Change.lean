import InstallCheck.Cloud.Account

/-!
Changes to an account in memory: resources that are added, operations that are made to fail, and a
delay before answers.
-/
namespace InstallCheck.Cloud

inductive Change
  /-- The zones of a region, in place of those it has. -/
  | region (name : String) (zones : List String)
  | resourceGroup (g : ResourceGroup)
  | dnsInstance (i : DnsInstance)
  /-- A zone and, if the account does not list it, the instance that manages it. -/
  | dnsZone (z : DnsZone)
  | image (i : Image)
  | vpc (v : Vpc)
  | subnet (s : Subnet)
  | instanceProfile (p : InstanceProfile)
  | encryptionKey (k : EncryptionKey)
  /-- An operation fails with a message. -/
  | fault (operation message : String)
  /-- Every answer is delayed. -/
  | latency (delay : Duration)
  deriving DecidableEq, Repr

namespace Account

def withState (a : Account) (s : Snapshot) : Account := { a with state := s }

def apply (a : Account) : Change → Account
  | .region name zones => a.withState { a.state with zones := a.state.zones.insert name zones }
  | .resourceGroup g => a.withState { a.state with resourceGroups := a.state.resourceGroups ++ [g] }
  | .dnsInstance i => a.withState { a.state with dnsInstances := a.state.dnsInstances ++ [i] }
  | .dnsZone z =>
    a.withState { a.state with dnsZones := a.state.dnsZones ++ [z] }.registerZoneOwners
  | .image i => a.withState { a.state with images := a.state.images ++ [i] }
  | .vpc v => a.withState { a.state with vpcs := a.state.vpcs ++ [v] }
  | .subnet s => a.withState { a.state with subnets := a.state.subnets ++ [s] }
  | .instanceProfile p =>
    a.withState { a.state with instanceProfiles := a.state.instanceProfiles ++ [p] }
  | .encryptionKey k => a.withState { a.state with encryptionKeys := a.state.encryptionKeys ++ [k] }
  | .fault operation message => { a with faults := a.faults.insert operation message }
  | .latency delay => { a with latency := some delay }

end Account

end InstallCheck.Cloud
