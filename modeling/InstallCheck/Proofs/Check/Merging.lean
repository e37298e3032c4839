import InstallCheck.Proofs.Check.Tables
import InstallCheck.Proofs.Cloud.Merge

/-!
Checks against merged snapshots. The rows of the first snapshot come first and stay the first to be found,
so that a config that is accepted stays accepted whatever is merged in; and merging in what is already
there changes no report.
-/
namespace InstallCheck

open Cloud (Query Clock Snapshot)

namespace Cloud.Snapshot

variable {s t : Snapshot}

theorem find?_append_of_subset {α : Type} {l m : List α} (within : m ⊆ l) (p : α → Bool) :
    (l ++ m).find? p = l.find? p := by
  rw [List.find?_append]
  cases found : l.find? p with
  | some a => rfl
  -- What is not found among the rows that were there is not among those that are appended.
  | none =>
    have nowhere := List.find?_eq_none.mp found
    exact List.find?_eq_none.mpr fun a member => nowhere a (within member)

theorem mem_append_iff_of_subset {α : Type} {l m : List α} (within : m ⊆ l) (a : α) :
    a ∈ l ++ m ↔ a ∈ l :=
  List.mem_append.trans (or_iff_left_of_imp (within ·))

section Accepted

variable {regions : Region.Catalog} {c : Install.Config} {p : Install.Platform}

/-- Two snapshots list the same zones in the regions that both have. -/
def AgreeOnZones (s t : Snapshot) : Prop :=
  ∀ region valid others, s.zones.get? region = some valid → t.zones.get? region = some others →
    valid = others

theorem AgreeOnZones.get?_merge (agree : s.AgreeOnZones t) {region : String} {valid : List String}
    (known : s.zones.get? region = some valid) : (s.merge t).zones.get? region = some valid := by
  rw [get?_zones_merge]
  cases there : t.zones.get? region with
  | none => rw [Option.none_or, known]
  | some others => rw [agree region valid others known there, Option.some_or]

theorem Offers.merge {region : String} {m : Install.PoolSettings} (offers : s.Offers region m)
    (agree : s.AgreeOnZones t) : (s.merge t).Offers region m where
  machineType name given nonempty := by
    obtain ⟨profile, listed, named⟩ := offers.machineType name given nonempty
    exact ⟨profile, List.mem_append_left _ listed, named⟩
  zones declared := by
    obtain ⟨valid, known, within⟩ := offers.zones declared
    exact ⟨valid, agree.get?_merge known, within⟩
  encryptionKey volume key set given nonempty := by
    obtain ⟨k, listed, named⟩ := offers.encryptionKey volume key set given nonempty
    exact ⟨k, List.mem_append_left _ listed, named⟩

theorem VpcScope.merge {scope : Option String} (isScope : s.VpcScope p scope) :
    (s.merge t).VpcScope p scope := by
  cases isScope with
  | own given nonempty found => exact .own given nonempty ((List.prefix_append _ _).find?_eq_some found)
  | shared blank given nonempty => exact .shared blank given nonempty
  | anywhere blank none => exact .anywhere blank none

/-- A text that some group answers to keeps its meaning, as that group comes before all that are merged
in; one that no group answers to might get a new one. -/
theorem Means.merge {text id : String} (means : s.Means text id)
    (known : ∃ g ∈ s.resourceGroups, g.id = text ∨ g.name = text) : (s.merge t).Means text id := by
  cases means with
  | group found => exact .group ((List.prefix_append _ _).find?_eq_some found)
  | itself nobody =>
    obtain ⟨g, listed, answers⟩ := known
    exact absurd answers (not_or.mpr (nobody g listed))

/-- The text that limits the search for a private cloud is one that a group answers to, if the groups that
a config names are there. -/
theorem VpcScope.known {text : String} (isScope : s.VpcScope p (some text))
    (resourceGroup : ∀ name, p.resourceGroup = some name → name ≠ "" →
      ∃ g ∈ s.resourceGroups, g.id = name ∨ g.name = name) :
    ∃ g ∈ s.resourceGroups, g.id = text ∨ g.name = text := by
  cases isScope with
  | own _ _ found => exact ⟨_, List.mem_of_find?_eq_some found, .inl rfl⟩
  | shared _ given nonempty => exact resourceGroup text given nonempty

/-- Whatever is merged in, a snapshot goes on having what it has, as long as its regions keep their
zones. -/
theorem Satisfies.merge (satisfied : s.Satisfies regions c p) (agree : s.AgreeOnZones t) :
    (s.merge t).Satisfies regions c p where
  region := satisfied.region
  dnsZone := by
    obtain ⟨z, first, nonempty⟩ := satisfied.dnsZone
    exact ⟨z, (List.prefix_append _ _).find?_eq_some first, nonempty⟩
  osImage := by
    obtain ⟨i, listed, named⟩ := satisfied.osImage
    exact ⟨i, List.mem_append_left _ listed, named⟩
  resourceGroup name given nonempty := by
    obtain ⟨g, listed, answers⟩ := satisfied.resourceGroup name given nonempty
    exact ⟨g, List.mem_append_left _ listed, answers⟩
  wholeNetwork := satisfied.wholeNetwork
  vpc name given nonempty := by
    obtain ⟨scope, isScope, v, listed, answers, placed⟩ := satisfied.vpc name given nonempty
    refine ⟨scope, isScope.merge, v, List.mem_append_left _ listed, answers, ?_⟩
    -- A group that is merged in could give the text that limits the search a meaning of its own; here
    -- some group answers to it already.
    rintro text rfl
    exact (placed text rfl).merge (isScope.known satisfied.resourceGroup)
  subnets listed := by
    obtain ⟨valid, known, each⟩ := satisfied.subnets listed
    refine ⟨valid, agree.get?_merge known, fun id member => ?_⟩
    obtain ⟨n, first, inside⟩ := each id member
    exact ⟨n, (List.prefix_append _ _).find?_eq_some first, inside⟩
  defaultMachines m set := (satisfied.defaultMachines m set).merge agree
  controlPlane pool m given set := (satisfied.controlPlane pool m given set).merge agree
  compute pool listed m set := (satisfied.compute pool listed m set).merge agree

end Accepted

/-- Every row of a second snapshot stands in the same table of the first one, and so does every region
with its zones. -/
structure Includes (s t : Snapshot) : Prop where
  zones : ∀ region valid, t.zones.get? region = some valid → s.zones.get? region = some valid
  resourceGroups : t.resourceGroups ⊆ s.resourceGroups
  dnsInstances : t.dnsInstances ⊆ s.dnsInstances
  dnsZones : t.dnsZones ⊆ s.dnsZones
  images : t.images ⊆ s.images
  vpcs : t.vpcs ⊆ s.vpcs
  subnets : t.subnets ⊆ s.subnets
  instanceProfiles : t.instanceProfiles ⊆ s.instanceProfiles
  encryptionKeys : t.encryptionKeys ⊆ s.encryptionKeys

theorem includes_self (s : Snapshot) : s.Includes s where
  zones _ _ known := known
  resourceGroups := List.Subset.refl _
  dnsInstances := List.Subset.refl _
  dnsZones := List.Subset.refl _
  images := List.Subset.refl _
  vpcs := List.Subset.refl _
  subnets := List.Subset.refl _
  instanceProfiles := List.Subset.refl _
  encryptionKeys := List.Subset.refl _

theorem Includes.get?_merge (includes : s.Includes t) (region : String) :
    (s.merge t).zones.get? region = s.zones.get? region := by
  rw [get?_zones_merge]
  cases there : t.zones.get? region with
  | none => rfl
  | some valid => rw [includes.zones region valid there, Option.some_or]

/-- Rows that are there already put nothing first and add nothing to what is there. -/
theorem Includes.readAlike (includes : s.Includes t) : (s.merge t).ReadAlike s where
  zones region := by
    rw [includes.get?_merge]
    cases s.zones.get? region with
    | none => exact .none
    | some valid => exact .some (.refl _)
  resourceGroups := mem_append_iff_of_subset includes.resourceGroups
  firstGroup _ := find?_append_of_subset includes.resourceGroups _
  dnsInstances crn := by
    simp only [merge, mem_append_iff_of_subset includes.dnsInstances,
      mem_append_iff_of_subset includes.dnsZones]
  firstZone _ _ := find?_append_of_subset includes.dnsZones _
  images := mem_append_iff_of_subset includes.images
  vpcs := mem_append_iff_of_subset includes.vpcs
  firstSubnet _ := find?_append_of_subset includes.subnets _
  instanceProfiles := mem_append_iff_of_subset includes.instanceProfiles
  encryptionKeys := mem_append_iff_of_subset includes.encryptionKeys

end Cloud.Snapshot

namespace Check.Service

variable {s t : Snapshot} {regions : Region.Catalog} {clock other : List Query → Query → Clock}
  {limit : Duration} {c : Install.Config}

/-- **Merging never breaks an accepted config.** If an undisturbed check against the account of a snapshot
reports nothing, then one against the merge of the snapshot with any other one reports nothing either, as
long as they agree on the zones of the regions that both have. -/
theorem check_merge_of_accepted (agree : s.AgreeOnZones t)
    (calm : ((overSnapshot s regions clock limit).check (.start limit false) c).2.Undisturbed
      (overSnapshot s regions clock limit).cloud)
    (calmToo : ((overSnapshot (s.merge t) regions other limit).check
      (.start limit false) c).2.Undisturbed (overSnapshot (s.merge t) regions other limit).cloud)
    (accepted : ((overSnapshot s regions clock limit).check (.start limit false) c).1 = .ok []) :
    ((overSnapshot (s.merge t) regions other limit).check (.start limit false) c).1 = .ok [] := by
  cases given : c.platform with
  | none =>
    rw [check_of_noPlatform given] at accepted
    cases accepted
  | some p =>
    rw [check_overSnapshot given calm, Except.ok.injEq] at accepted
    rw [check_overSnapshot given calmToo, Except.ok.injEq]
    have satisfied := checks_clean_iff_satisfies.mp accepted
    exact checks_clean_iff_satisfies.mpr (satisfied.merge agree)

/-- A snapshot with groups whose names are the id and the name of groups of the sample account, and with
one more private cloud of the name that the sample config uses. -/
def additions : Snapshot :=
  { (∅ : Snapshot) with
    zones := .ofList [("eu-de", ["eu-de-1"]), ("us-south", ["us-south-2", "us-south-1"])]
    resourceGroups := [⟨"rg-9", "rg-2"⟩, ⟨"rg-8", "shared"⟩]
    vpcs := [⟨"vpc-9", "net", "rg-9"⟩] }

theorem agreeOnZones_additions : Sample.snapshot.AgreeOnZones additions := by
  intro region valid others here there
  have listed : (region, valid) = ("us-south", ["us-south-2", "us-south-1"]) :=
    List.mem_singleton.mp (NameMap.mem_entries_iff.mpr here)
  cases listed
  exact Option.some.inj (Eq.trans (by decide +kernel) there)

/-- The sample config is still accepted when these are merged in. -/
theorem check_merge_additions :
    Sample.snapshot.AgreeOnZones additions ∧
    ((atOnce Sample.snapshot).check (.start (.ofSeconds 60) false) Sample.config).1 = .ok [] ∧
    ((atOnce (Sample.snapshot.merge additions)).check
      (.start (.ofSeconds 60) false) Sample.config).1 = .ok [] := by
  have accepted :
      ((atOnce Sample.snapshot).check (.start (.ofSeconds 60) false) Sample.config).1 = .ok [] := by
    rw [atOnce, check_overSnapshot (p := Sample.platform) rfl undisturbed_atOnce]
    exact congrArg Except.ok (checks_clean_iff_satisfies.mpr Sample.snapshot_satisfies_config)
  exact ⟨agreeOnZones_additions, accepted,
    check_merge_of_accepted agreeOnZones_additions undisturbed_atOnce undisturbed_atOnce accepted⟩

/-- **Merging in what is there changes no report.** If every row and every region of a second snapshot is
one of the first, then undisturbed checks against the account of the first and of the merge of both have
the same result. -/
theorem check_merge_of_includes (includes : s.Includes t)
    (calm : ((overSnapshot s regions clock limit).check (.start limit false) c).2.Undisturbed
      (overSnapshot s regions clock limit).cloud)
    (calmToo : ((overSnapshot (s.merge t) regions other limit).check
      (.start limit false) c).2.Undisturbed (overSnapshot (s.merge t) regions other limit).cloud) :
    ((overSnapshot (s.merge t) regions other limit).check (.start limit false) c).1 =
      ((overSnapshot s regions clock limit).check (.start limit false) c).1 :=
  check_overSnapshot_congr includes.readAlike calmToo calm

/-- The sample config, but for a private cloud that its account does not have. -/
def unplaced : Install.Config :=
  { Sample.config with platform := some { Sample.platform with vpc := some "nowhere" } }

/-- The sample account merged with itself is another account, and the private cloud is missing in both
alike. -/
theorem check_merge_twice :
    Sample.snapshot.Includes Sample.snapshot ∧
    Sample.snapshot.merge Sample.snapshot ≠ Sample.snapshot ∧
    ((atOnce Sample.snapshot).check (.start (.ofSeconds 60) false) unplaced).1 ≠ .ok [] ∧
    ((atOnce (Sample.snapshot.merge Sample.snapshot)).check
        (.start (.ofSeconds 60) false) unplaced).1 =
      ((atOnce Sample.snapshot).check (.start (.ofSeconds 60) false) unplaced).1 := by
  refine ⟨Snapshot.includes_self _, fun same => ?_, fun accepted => ?_,
    check_merge_of_includes (Snapshot.includes_self _) undisturbed_atOnce undisturbed_atOnce⟩
  · exact absurd (congrArg (·.vpcs.length) same) (by decide)
  · rw [atOnce, check_overSnapshot (p := { Sample.platform with vpc := some "nowhere" }) rfl
      undisturbed_atOnce] at accepted
    have satisfied := checks_clean_iff_satisfies.mp (Except.ok.inj accepted)
    obtain ⟨_, _, v, listed, named, _⟩ := satisfied.vpc "nowhere" rfl (by decide)
    rw [List.mem_singleton.mp listed] at named
    exact absurd named (by decide)

end Check.Service

end InstallCheck
