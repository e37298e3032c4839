import InstallCheck.Proofs.Cloud.Merge
import InstallCheck.Proofs.Cloud.Owners

/-!
What changes leave of an account, told by the changes themselves: the tables keep their rows and the rows
that were added follow in order, a region has the zones that it was given last, an operation fails with
the message that was set for it last, and the last delay counts. Where an account comes from, it begins
with the rows that it is made of and the owners that these lack.
-/
namespace InstallCheck.Cloud

namespace Change

def resourceGroup? : Change → Option ResourceGroup
  | .resourceGroup g => some g
  | _ => none

def dnsZone? : Change → Option DnsZone
  | .dnsZone z => some z
  | _ => none

def image? : Change → Option Image
  | .image i => some i
  | _ => none

def vpc? : Change → Option Vpc
  | .vpc v => some v
  | _ => none

def subnet? : Change → Option Subnet
  | .subnet s => some s
  | _ => none

def instanceProfile? : Change → Option InstanceProfile
  | .instanceProfile p => some p
  | _ => none

def encryptionKey? : Change → Option EncryptionKey
  | .encryptionKey k => some k
  | _ => none

/-- The zones that a region is given. -/
def zones? (region : String) : Change → Option (List String)
  | .region name zones => if name = region then some zones else none
  | _ => none

/-- The message with which an operation is made to fail. -/
def message? (operation : String) : Change → Option String
  | .fault failing message => if failing = operation then some message else none
  | _ => none

def delay? : Change → Option Duration
  | .latency delay => some delay
  | _ => none

/-- The instances that are listed after a change. The one that manages a new zone is listed once. -/
def instances (listed : List DnsInstance) : Change → List DnsInstance
  | .dnsInstance i => listed ++ [i]
  | .dnsZone z =>
    if ∃ i ∈ listed, i.crn = z.instanceCrn then listed
    else listed ++ [⟨z.instanceCrn, z.instanceName⟩]
  | _ => listed

/-- What the last of some changes tells that tells it. -/
def last? {α : Type} (told : Change → Option α) (changes : List Change) : Option α :=
  (changes.filterMap told).getLast?

theorem last?_concat {α : Type} {told : Change → Option α} {changes : List Change} {change : Change}
    {before : Option α} :
    (last? told (changes ++ [change])).or before =
      (told change).or ((last? told changes).or before) := by
  rw [last?, last?, List.filterMap_append, List.getLast?_append, Option.or_assoc]
  cases found : told change <;> simp [found]

theorem rows_concat {α : Type} {told : Change → Option α} {changes : List Change} {change : Change}
    {first rows more : List α} (shown : rows = first ++ changes.filterMap told)
    (added : more = rows ++ (told change).toList) :
    more = first ++ (changes ++ [change]).filterMap told := by
  rw [added, shown, List.filterMap_append, List.append_assoc]
  cases found : told change <;> simp [found]

end Change

namespace Account

/-- What an account shows that began as another one, by the changes made since. -/
structure Shows (o : Account) (changes : List Change) (a : Account) : Prop where
  zones : ∀ region, a.state.zones.get? region =
    (Change.last? (·.zones? region) changes).or (o.state.zones.get? region)
  resourceGroups : a.state.resourceGroups =
    o.state.resourceGroups ++ changes.filterMap (·.resourceGroup?)
  dnsInstances : a.state.dnsInstances = changes.foldl Change.instances o.state.dnsInstances
  dnsZones : a.state.dnsZones = o.state.dnsZones ++ changes.filterMap (·.dnsZone?)
  images : a.state.images = o.state.images ++ changes.filterMap (·.image?)
  vpcs : a.state.vpcs = o.state.vpcs ++ changes.filterMap (·.vpc?)
  subnets : a.state.subnets = o.state.subnets ++ changes.filterMap (·.subnet?)
  instanceProfiles : a.state.instanceProfiles =
    o.state.instanceProfiles ++ changes.filterMap (·.instanceProfile?)
  encryptionKeys : a.state.encryptionKeys =
    o.state.encryptionKeys ++ changes.filterMap (·.encryptionKey?)
  faults : ∀ operation, a.faults.get? operation =
    (Change.last? (·.message? operation) changes).or (o.faults.get? operation)
  latency : a.latency = (Change.last? (·.delay?) changes).or o.latency

section Applying

variable {a o : Account} {change : Change} {changes : List Change}

theorem get?_zones_apply {region : String} :
    (a.apply change).state.zones.get? region =
      (change.zones? region).or (a.state.zones.get? region) := by
  cases change with
  | region name zones =>
    rw [apply, withState, NameMap.get?_insert, Change.zones?]
    by_cases same : name = region <;> simp [same, Ne.symm]
  | _ => rfl

theorem get?_faults_apply {operation : String} :
    (a.apply change).faults.get? operation =
      (change.message? operation).or (a.faults.get? operation) := by
  cases change with
  | fault failing message =>
    rw [apply, NameMap.get?_insert, Change.message?]
    by_cases own : failing = operation
    · rw [if_pos own.symm, if_pos own, Option.some_or]
    · rw [if_neg (Ne.symm own), if_neg own, Option.none_or]
  | _ => rfl

/-- As long as the owners are listed of all zones, only the owner of the zone that is added can be new. -/
theorem dnsInstances_apply (listed : a.state.OwnersListed) :
    (a.apply change).state.dnsInstances = change.instances a.state.dnsInstances := by
  cases change with
  | dnsZone z =>
    have before : a.state.dnsZones.foldl Snapshot.addOwner a.state.dnsInstances = a.state.dnsInstances :=
      congrArg Snapshot.dnsInstances (Snapshot.registerZoneOwners_eq_self_iff.mpr listed)
    simp only [apply, withState, Snapshot.registerZoneOwners, List.foldl_append, before,
      List.foldl_cons, List.foldl_nil, Snapshot.addOwner, Change.instances, List.any_eq_true,
      decide_eq_true_eq]
  | _ => rfl

theorem rows_apply (a : Account) (change : Change) :
    (a.apply change).state.resourceGroups = a.state.resourceGroups ++ change.resourceGroup?.toList ∧
    (a.apply change).state.dnsZones = a.state.dnsZones ++ change.dnsZone?.toList ∧
    (a.apply change).state.images = a.state.images ++ change.image?.toList ∧
    (a.apply change).state.vpcs = a.state.vpcs ++ change.vpc?.toList ∧
    (a.apply change).state.subnets = a.state.subnets ++ change.subnet?.toList ∧
    (a.apply change).state.instanceProfiles =
      a.state.instanceProfiles ++ change.instanceProfile?.toList ∧
    (a.apply change).state.encryptionKeys = a.state.encryptionKeys ++ change.encryptionKey?.toList := by
  -- A change adds its row to one table, and `simp` sees that nothing is added to the others.
  cases change <;>
    simp [apply, withState, Snapshot.registerZoneOwners, Change.resourceGroup?, Change.dnsZone?,
      Change.image?, Change.vpc?, Change.subnet?, Change.instanceProfile?, Change.encryptionKey?]

theorem latency_apply : (a.apply change).latency = change.delay?.or a.latency := by
  cases change <;> rfl

theorem Shows.apply (shows : o.Shows changes a) (listed : a.state.OwnersListed) (change : Change) :
    o.Shows (changes ++ [change]) (a.apply change) := by
  obtain ⟨groups, zones, images, vpcs, subnets, profiles, keys⟩ := rows_apply a change
  exact
    { zones region := by rw [get?_zones_apply, shows.zones, Change.last?_concat]
      resourceGroups := Change.rows_concat shows.resourceGroups groups
      dnsInstances := by
        rw [dnsInstances_apply listed, shows.dnsInstances, List.foldl_append, List.foldl_cons,
          List.foldl_nil]
      dnsZones := Change.rows_concat shows.dnsZones zones
      images := Change.rows_concat shows.images images
      vpcs := Change.rows_concat shows.vpcs vpcs
      subnets := Change.rows_concat shows.subnets subnets
      instanceProfiles := Change.rows_concat shows.instanceProfiles profiles
      encryptionKeys := Change.rows_concat shows.encryptionKeys keys
      faults operation := by rw [get?_faults_apply, shows.faults, Change.last?_concat]
      latency := by rw [latency_apply, shows.latency, Change.last?_concat] }

/-- From an account that lists the owners of its zones on, changes add up to what they tell. -/
theorem Shows.foldl {more : List Change} (shows : o.Shows changes a) (listed : a.state.OwnersListed) :
    o.Shows (changes ++ more) (more.foldl Account.apply a) := by
  induction more generalizing changes a with
  | nil => rwa [List.append_nil]
  | cons change more ih =>
    rw [List.append_cons]
    exact ih (shows.apply listed change) (ownersListed_apply listed change)

end Applying

end Account

end InstallCheck.Cloud
