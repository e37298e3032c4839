import InstallCheck.Cloud.Clock
import InstallCheck.Cloud.Query
import InstallCheck.Cloud.Snapshot

/-!
A cloud account held in memory: a snapshot from which lookups are answered, the operations that are
made to fail, and a delay before every answer.
-/
namespace InstallCheck.Cloud

structure Account where
  state : Snapshot
  faults : NameMap String
  latency : Option Duration
  deriving DecidableEq

namespace Snapshot

/-- The group that a text names, unless there is none. -/
def group? (s : Snapshot) (idOrName : String) : Option ResourceGroup :=
  s.resourceGroups.find? (·.answersTo idOrName)

/-- The id of the group that a text names, or the text itself where it names none. -/
def groupId (s : Snapshot) (idOrName : String) : String :=
  match s.group? idOrName with
  | some g => g.id
  | none => idOrName

/-- Whether a virtual private cloud lies in the group that a lookup is limited to. -/
def inScope (s : Snapshot) (scope : Option String) (v : Vpc) : Bool :=
  match scope with
  | none => true
  | some group => v.resourceGroupId = s.groupId group

/-- A row that was looked for, or the report that there is none. -/
def foundOr {α : Type} (resource id : String) : Option α → Except LookupError α
  | some row => .ok row
  | none => .error (.notFound resource id)

/-- The result of a lookup in the tables of a snapshot. -/
def answer (s : Snapshot) : (q : Query) → q.Result
  | .vpcZones region => foundOr "region" region (s.zones.get? region)
  | .resourceGroup idOrName => foundOr "resource group" idOrName (s.group? idOrName)
  | .resourceGroups => .ok s.resourceGroups
  | .dnsInstance crn => foundOr "CIS instance" crn (s.dnsInstances.find? (·.crn = crn))
  | .zoneId crn domain =>
    foundOr "DNS zone" domain
      ((s.dnsZones.find? fun z => z.instanceCrn = crn && z.name = domain).map (·.id))
  | .dnsZones => .ok s.dnsZones
  | .image name region =>
    foundOr "image" name (s.images.find? fun i => i.name = name && i.region = region)
  | .vpc idOrName scope =>
    foundOr "VPC" idOrName (s.vpcs.find? fun v => v.answersTo idOrName && s.inScope scope v)
  | .subnet id => foundOr "subnet" id (s.subnets.find? (·.id = id))
  | .instanceProfiles => .ok s.instanceProfiles
  | .encryptionKey id => foundOr "encryption key" id (s.encryptionKeys.find? (·.id = id))

end Snapshot

namespace Account

def empty : Account := ⟨∅, ∅, none⟩

instance : Inhabited Account := ⟨empty⟩

/-- The account that a snapshot was taken of, with the owners of its zones. -/
def ofSnapshot (s : Snapshot) : Account := ⟨s.registerZoneOwners, ∅, none⟩

/-- The result of a lookup that is not delayed: a failure of the operation comes first. -/
def answer (a : Account) (q : Query) : q.Result :=
  match a.faults.get? q.operation with
  | some message => .error (.transport q.operation message)
  | none => a.state.answer q

/-- The result of a lookup with a time limit, and the moment at which it is there, on a clock that
starts with it. The flag is looked at while the lookup is delayed and once after. -/
def lookup (a : Account) (clock : Clock) (raised : Duration → Bool) (limit : Duration) (q : Query) :
    q.Result × Duration :=
  match a.latency with
  | none =>
    (if raised ⟨0⟩ then .error .cancelled else a.answer q, clock.done ⟨0⟩)
  | some latency =>
    let wait := Wait.loop clock raised (min latency limit) ⟨0⟩
    let result :=
      if wait.cancelled then .error .cancelled
      else if limit < latency then .error (.timeout limit)
      else if raised wait.ended then .error .cancelled
      else a.answer q
    (result, clock.done wait.ended)

/-- What comes of a lookup: cancellation counts when the flag is up at the end of it. -/
def reply (a : Account) (clock : Clock) (raised : Duration → Bool) (limit : Duration) (q : Query) :
    Reply q :=
  let (result, ended) := a.lookup clock raised limit q
  ⟨result, ended, raised ended⟩

/-- An account as a cloud whose lookups are never cancelled from outside. -/
def cloud (a : Account) : Cloud := fun limit _ q => a.reply .exact (fun _ => false) limit q

end Account

end InstallCheck.Cloud
