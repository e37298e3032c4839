import InstallCheck.Proofs.Check.Accounting
import InstallCheck.Proofs.Check.Verdict
import InstallCheck.Proofs.Cloud.Account

/-!
Which install configs are accepted against an account made of a snapshot: exactly those that the tables
of the snapshot satisfy, condition by condition.
-/
namespace InstallCheck

open Install (Config Platform PoolSettings)

namespace Cloud.Snapshot

variable {s : Snapshot}

/-- What a text stands for where the id of a resource group is expected: the first group that has it as
its id or name or, if there is none, the text itself. -/
inductive Means (s : Snapshot) (text : String) : String → Prop
  | group {g : ResourceGroup} :
    s.resourceGroups.find? (fun g => g.id = text || g.name = text) = some g → Means s text g.id
  | itself : (∀ g ∈ s.resourceGroups, g.id ≠ text ∧ g.name ≠ text) → Means s text text

/-- Where a private cloud is looked for: in its own resource group, if that is named and exists, else in
the one of the installation as it is written, else anywhere. -/
inductive VpcScope (s : Snapshot) (p : Platform) : Option String → Prop
  | own {name : String} {g : ResourceGroup} : p.vpcResourceGroup = some name → name ≠ "" →
    s.resourceGroups.find? (fun g => g.id = name || g.name = name) = some g → VpcScope s p (some g.id)
  | shared {name : String} : p.vpcResourceGroup.getD "" = "" → p.resourceGroup = some name →
    name ≠ "" → VpcScope s p (some name)
  | anywhere : p.vpcResourceGroup.getD "" = "" → p.resourceGroup.getD "" = "" → VpcScope s p none

/-- A snapshot has what a group of machines asks for in a region. -/
structure Offers (s : Snapshot) (region : String) (m : PoolSettings) : Prop where
  machineType : ∀ name, m.instanceType = some name → name ≠ "" →
    ∃ t ∈ s.instanceProfiles, t.name = name
  zones : m.zones ≠ [] →
    ∃ valid, s.zones.get? region = some valid ∧ ∀ zone ∈ m.zones, zone ∈ valid
  encryptionKey : ∀ volume key, m.bootVolume = some volume → volume.encryptionKey = some key →
    key ≠ "" → ∃ k ∈ s.encryptionKeys, k.id = key

/-- A snapshot has everything that an install config asks for. -/
structure Satisfies (s : Snapshot) (regions : Region.Catalog) (c : Config) (p : Platform) : Prop where
  region : p.region ≠ "" ∧ regions.contains p.region = true
  dnsZone : ∃ z, s.dnsZones.find? (fun z => z.instanceCrn = p.dnsInstanceCrn && z.name = c.baseDomain) =
    some z ∧ z.id ≠ ""
  osImage : ∃ i ∈ s.images, i.name = p.osImage ∧ i.region = p.region
  resourceGroup : ∀ name, p.resourceGroup = some name → name ≠ "" →
    ∃ g ∈ s.resourceGroups, g.id = name ∨ g.name = name
  wholeNetwork : (∃ name, p.vpc = some name ∧ name ≠ "") ↔ p.subnets ≠ []
  vpc : ∀ name, p.vpc = some name → name ≠ "" →
    ∃ scope, s.VpcScope p scope ∧ ∃ v ∈ s.vpcs, (v.id = name ∨ v.name = name) ∧
      ∀ text, scope = some text → s.Means text v.resourceGroupId
  subnets : p.subnets ≠ [] →
    ∃ valid, s.zones.get? p.region = some valid ∧
      ∀ id ∈ p.subnets, ∃ n, s.subnets.find? (·.id = id) = some n ∧ n.zone ∈ valid
  defaultMachines : ∀ m, p.defaultMachines = some m → s.Offers p.region m
  controlPlane : ∀ pool m, c.controlPlane = some pool → pool.settings = some m → s.Offers p.region m
  compute : ∀ pool ∈ c.compute, ∀ m, pool.settings = some m → s.Offers p.region m

theorem means_iff {text id : String} : s.Means text id ↔ id = s.groupId text := by
  unfold groupId
  cases found : s.group? text with
  | some g =>
    constructor
    · rintro (same | nobody)
      · exact congrArg ResourceGroup.id (Option.some.inj (same.symm.trans found))
      · obtain ⟨member, answers⟩ := answersTo_of_group? found
        exact absurd answers (not_or.mpr (nobody g member))
    · rintro rfl
      exact .group found
  | none =>
    constructor
    · rintro (same | nobody)
      · cases same.symm.trans found
      · rfl
    · rintro rfl
      refine .itself fun g member => not_or.mp fun answers => ?_
      exact List.find?_eq_none.mp found g member (ResourceGroup.answersTo_iff.mpr answers)

theorem vpcScope_iff {p : Platform} {scope : Option String} :
    s.VpcScope p scope ↔
      match p.vpcGroupName with
      | some group => ∃ g, s.group? group = some g ∧ scope = some g.id
      | none => scope = p.groupName := by
  cases named : p.vpcGroupName with
  | some group =>
    obtain ⟨given, nonempty⟩ := Install.nonEmpty_eq_some_iff.mp named
    have notBlank : p.vpcResourceGroup.getD "" ≠ "" := by simpa [given] using nonempty
    constructor
    · rintro (⟨givenToo, -, found⟩ | ⟨blank, -, -⟩ | ⟨blank, -⟩)
      · cases given.symm.trans givenToo
        exact ⟨_, found, rfl⟩
      · exact absurd blank notBlank
      · exact absurd blank notBlank
    · rintro ⟨g, found, rfl⟩
      exact .own given nonempty found
  | none =>
    have blank := Install.nonEmpty_eq_none_iff.mp named
    constructor
    · rintro (⟨given, nonempty, -⟩ | ⟨-, given, nonempty⟩ | ⟨-, none⟩)
      · simp [given, nonempty] at blank
      · exact (Install.nonEmpty_eq_some_iff.mpr ⟨given, nonempty⟩).symm
      · exact (Install.nonEmpty_eq_none_iff.mpr none).symm
    · rintro rfl
      cases shared : p.groupName with
      | none => exact .anywhere blank (Install.nonEmpty_eq_none_iff.mp shared)
      | some name =>
        obtain ⟨given, nonempty⟩ := Install.nonEmpty_eq_some_iff.mp shared
        exact .shared blank given nonempty

end Cloud.Snapshot

namespace Check

open Inquiry Cloud

variable {s : Snapshot} {path : Field.Path}

theorem Platform.dnsInstance_clean_iff_row {domain crn : String} :
    (Platform.dnsInstance domain crn path).Clean s.registerZoneOwners.answer ↔
      ∃ z, s.dnsZones.find? (fun z => z.instanceCrn = crn && z.name = domain) = some z ∧
        z.id ≠ "" := by
  rw [Platform.dnsInstance_clean_iff]
  constructor
  · rintro ⟨-, id, managed, nonempty⟩
    obtain ⟨z, found, rfl⟩ := Option.map_eq_some_iff.mp (Snapshot.foundOr_eq_ok.mp managed)
    exact ⟨z, found, nonempty⟩
  · rintro ⟨z, found, nonempty⟩
    -- The instance need not be listed by the snapshot: the account registers the owner of the zone.
    have owner : z.instanceCrn = crn := by
      have := List.find?_some found
      simp only [Bool.and_eq_true, decide_eq_true_eq] at this
      exact this.1
    refine ⟨?_, z.id, Snapshot.foundOr_eq_ok.mpr (Option.map_eq_some_iff.mpr ⟨z, found, rfl⟩), nonempty⟩
    simp only [Snapshot.answer, Snapshot.foundOr_eq_ok, ← Option.isSome_iff_exists,
      List.find?_isSome, decide_eq_true_eq]
    exact Snapshot.exists_registerZoneOwners_iff.mpr
      (.inr ⟨z, List.mem_of_find?_eq_some found, owner⟩)

theorem Platform.osImage_clean_iff_row {name region : String} :
    (Platform.osImage name region path).Clean s.registerZoneOwners.answer ↔
      ∃ i ∈ s.images, i.name = name ∧ i.region = region := by
  rw [Platform.osImage_clean_iff]
  simp [Snapshot.answer, ← Option.isSome_iff_exists, Snapshot.registerZoneOwners]

theorem Platform.resourceGroup_clean_iff_row {name : String} :
    (Platform.resourceGroup name path).Clean s.registerZoneOwners.answer ↔
      ∃ g ∈ s.resourceGroups, g.id = name ∨ g.name = name := by
  rw [Platform.resourceGroup_clean_iff]
  simp [Snapshot.answer, Snapshot.registerZoneOwners, ResourceGroup.answersTo_iff]

theorem Network.vpc_clean_iff_row {p : Platform} {name : String} :
    (Network.vpc p name path).Clean s.registerZoneOwners.answer ↔
      ∃ scope, s.VpcScope p scope ∧ ∃ v ∈ s.vpcs, (v.id = name ∨ v.name = name) ∧
        ∀ text, scope = some text → s.Means text v.resourceGroupId := by
  -- The account resolves the scope a second time; `Means` is that second step.
  have row (scope : Option String) :
      (∃ v, s.registerZoneOwners.answer (.vpc name scope) = .ok v) ↔
        ∃ v ∈ s.vpcs, (v.id = name ∨ v.name = name) ∧
          ∀ text, scope = some text → s.Means text v.resourceGroupId := by
    simp only [Snapshot.means_iff]
    exact Snapshot.exists_answer_vpc_iff (s := s.registerZoneOwners)
  simp only [Network.vpc_clean_iff, Snapshot.vpcScope_iff]
  cases p.vpcGroupName with
  | none => simp [row]
  | some group =>
    simp only [row]
    constructor
    · rintro ⟨g, found, placed⟩
      exact ⟨some g.id, ⟨g, Snapshot.foundOr_eq_ok.mp found, rfl⟩, placed⟩
    · rintro ⟨_, ⟨g, found, rfl⟩, placed⟩
      exact ⟨g, Snapshot.foundOr_eq_ok.mpr found, placed⟩

theorem Network.subnets_clean_iff_rows {region : String} {ids : List String} :
    (Network.subnets region ids path).Clean s.registerZoneOwners.answer ↔
      ∃ valid, s.zones.get? region = some valid ∧
        ∀ id ∈ ids, ∃ n, s.subnets.find? (·.id = id) = some n ∧ n.zone ∈ valid := by
  simp only [Network.subnets_clean_iff, Snapshot.answer, Snapshot.foundOr_eq_ok,
    Snapshot.registerZoneOwners]

theorem Machines.pool_clean_iff_offers {region : String} (m : PoolSettings) (path : Field.Path) :
    (Machines.pool region m path).Clean s.registerZoneOwners.answer ↔ s.Offers region m := by
  simp only [Machines.pool_clean_iff, PoolSettings.typeName, PoolSettings.keyName,
    Option.bind_eq_some_iff, Install.nonEmpty_eq_some_iff, Snapshot.answer, Snapshot.foundOr_eq_ok,
    ← Option.isSome_iff_exists, List.find?_isSome, Snapshot.registerZoneOwners]
  constructor
  · rintro ⟨machineType, zones, key⟩
    refine ⟨fun name given nonempty => ?_, zones, fun volume k set given nonempty => ?_⟩
    · simpa using machineType name ⟨given, nonempty⟩
    · simpa using key k ⟨volume, set, given, nonempty⟩
  · rintro ⟨machineType, zones, key⟩
    refine ⟨fun name named => ?_, zones, fun k named => ?_⟩
    · simpa using machineType name named.1 named.2
    · obtain ⟨volume, set, given, nonempty⟩ := named
      simpa using key volume k set given nonempty

/-- Nothing is reported against the account of a snapshot exactly when the snapshot has everything
that is asked for. -/
theorem Service.checks_clean_iff_satisfies {regions : Region.Catalog} {c : Config} {p : Platform} :
    (Service.checks regions c p).Clean s.registerZoneOwners.answer ↔ s.Satisfies regions c p := by
  rw [Service.checks_clean_iff Machines.pool_clean_iff_offers,
    Platform.platform_clean_iff Machines.pool_clean_iff_offers, Network.network_clean_iff,
    Platform.dnsInstance_clean_iff_row, Platform.osImage_clean_iff_row,
    Network.subnets_clean_iff_rows, Install.Rules.region_eq_nil_iff,
    Install.Rules.network_eq_nil_iff]
  simp only [Network.vpc_clean_iff_row, Platform.resourceGroup_clean_iff_row,
    Install.Platform.groupName, Install.Platform.vpcName, Install.nonEmpty_eq_some_iff]
  -- What is left is the same conditions, with names that are given and not empty taken apart.
  constructor
  · rintro ⟨⟨region, dnsZone, osImage, resourceGroup, wholeNetwork, ⟨vpc, subnets⟩, default⟩,
      controlPlane, compute⟩
    exact ⟨region, dnsZone, osImage, fun name given nonempty => resourceGroup name ⟨given, nonempty⟩,
      wholeNetwork, fun name given nonempty => vpc name ⟨given, nonempty⟩, subnets, default,
      fun pool m given set => controlPlane m (by rw [given]; exact set), compute⟩
  · intro satisfied
    refine ⟨⟨satisfied.region, satisfied.dnsZone, satisfied.osImage,
      fun name named => satisfied.resourceGroup name named.1 named.2, satisfied.wholeNetwork,
      ⟨fun name named => satisfied.vpc name named.1 named.2, satisfied.subnets⟩,
      satisfied.defaultMachines⟩, fun m set => ?_, satisfied.compute⟩
    obtain ⟨pool, given, set⟩ := Option.bind_eq_some_iff.mp set
    exact satisfied.controlPlane pool m given set

namespace Sample

theorem snapshot_offers_machines : snapshot.Offers "us-south" machines := by
  constructor
  case machineType =>
    rintro name ⟨⟩ -
    decide
  case zones => exact fun _ => ⟨["us-south-2", "us-south-1"], by decide, by decide⟩
  case encryptionKey =>
    rintro volume key ⟨⟩ ⟨⟩ -
    decide

theorem snapshot_satisfies_config : snapshot.Satisfies .builtIn config platform := by
  constructor
  case region => decide
  case dnsZone => exact ⟨⟨"zone", "base.domain", "crn:dns", "dns"⟩, by decide, by decide⟩
  case osImage => decide
  case resourceGroup =>
    rintro name ⟨⟩ -
    decide
  case wholeNetwork => simp [platform]
  case vpc =>
    rintro name ⟨⟩ -
    refine ⟨some "rg-2", .own (g := ⟨"rg-2", "shared"⟩) rfl (by decide) (by decide), ?_⟩
    refine ⟨⟨"vpc", "net", "rg-2"⟩, by decide, by decide, ?_⟩
    rintro text ⟨⟩
    exact .group (g := ⟨"rg-2", "shared"⟩) (by decide)
  case subnets =>
    intro _
    refine ⟨["us-south-2", "us-south-1"], by decide, ?_⟩
    simp [platform, snapshot]
  case defaultMachines =>
    rintro m ⟨⟩
    exact snapshot_offers_machines
  case controlPlane =>
    rintro pool m ⟨⟩ ⟨⟩
    exact snapshot_offers_machines
  case compute =>
    intro pool member m set
    simp only [config, List.mem_cons, List.not_mem_nil, or_false] at member
    rcases member with rfl | rfl
    · cases set
    · cases set
      exact snapshot_offers_machines

end Sample

namespace Service

variable {regions : Region.Catalog} {clock : List Query → Query → Clock} {limit : Duration}
  {c : Config} {p : Platform}

/-- Checks against the account that a snapshot was taken of. -/
def overSnapshot (s : Snapshot) (regions : Region.Catalog) (clock : List Query → Query → Clock)
    (limit : Duration) : Service :=
  ⟨(Account.ofSnapshot s).cloudOn clock, regions, limit⟩

/-- The report of an undisturbed run against the account of a snapshot is made of the rows that its
lookups find. -/
theorem check_overSnapshot (given : c.platform = some p)
    (calm : ((overSnapshot s regions clock limit).check (.start limit false) c).2.Undisturbed
      (overSnapshot s regions clock limit).cloud) :
    ((overSnapshot s regions clock limit).check (.start limit false) c).1 =
      .ok ((checks regions c p).value s.registerZoneOwners.answer) := by
  rw [check_of_platform given] at calm ⊢
  exact congrArg Except.ok
    (Inquiry.run_eq_value _ (fun _ _ => Account.result_cloudOn rfl) rfl calm)

/-- Nothing disturbs a check against such an account on clocks that keep the time limit. -/
theorem undisturbed_overSnapshot (quick : ∀ earlier q, (clock earlier q).done ⟨0⟩ ≤ limit) :
    ((overSnapshot s regions clock limit).check (.start limit false) c).2.Undisturbed
      (overSnapshot s regions clock limit).cloud := by
  refine Account.undisturbed_cloudOn rfl fun earlier q => ?_
  rw [check_limit]
  exact quick earlier q

/-- Checks against the account of a snapshot in the built-in regions, with a minute for every lookup and
clocks on which none takes any time. -/
def atOnce (s : Snapshot) : Service :=
  overSnapshot s .builtIn (fun _ _ => .exact) (.ofSeconds 60)

theorem undisturbed_atOnce :
    ((atOnce s).check (.start (.ofSeconds 60) false) c).2.Undisturbed (atOnce s).cloud :=
  undisturbed_overSnapshot fun _ _ => by decide

/-- **Exact acceptance.** An undisturbed run against the account of a snapshot accepts an install
config exactly when the snapshot has everything that the config asks for; otherwise it reports some
issues. -/
theorem validate_overSnapshot_iff (given : c.platform = some p)
    (calm : ((overSnapshot s regions clock limit).check (.start limit false) c).2.Undisturbed
      (overSnapshot s regions clock limit).cloud) :
    (((overSnapshot s regions clock limit).validate (.start limit false) c).1 = .ok () ↔
        s.Satisfies regions c p) ∧
      (¬ s.Satisfies regions c p → ∃ issues, issues ≠ [] ∧
        ((overSnapshot s regions clock limit).validate (.start limit false) c).1 =
          .error (.issues issues)) := by
  rw [validate_of_check (check_overSnapshot given calm), ← checks_clean_iff_satisfies, Clean]
  constructor
  · split <;> simp [*]
  · intro some
    exact ⟨_, some, if_neg some⟩

/-- The install config in which everything is set is accepted. -/
theorem validate_overSnapshot_sample :
    Sample.config.platform = some Sample.platform ∧
    ((overSnapshot Sample.snapshot .builtIn (fun _ _ => .exact) (.ofSeconds 60)).check
      (.start (.ofSeconds 60) false) Sample.config).2.Undisturbed
      (overSnapshot Sample.snapshot .builtIn (fun _ _ => .exact) (.ofSeconds 60)).cloud ∧
    ((overSnapshot Sample.snapshot .builtIn (fun _ _ => .exact) (.ofSeconds 60)).validate
      (.start (.ofSeconds 60) false) Sample.config).1 = .ok () := by
  have calm : ((overSnapshot Sample.snapshot .builtIn (fun _ _ => .exact) (.ofSeconds 60)).check
      (.start (.ofSeconds 60) false) Sample.config).2.Undisturbed
      (overSnapshot Sample.snapshot .builtIn (fun _ _ => .exact) (.ofSeconds 60)).cloud := by
    refine Account.undisturbed_cloudOn rfl fun _ _ => ?_
    rw [check_limit]
    decide
  exact ⟨rfl, calm, (validate_overSnapshot_iff rfl calm).1.mpr Sample.snapshot_satisfies_config⟩

end Service

end Check

end InstallCheck
