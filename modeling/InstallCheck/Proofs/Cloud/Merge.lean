import InstallCheck.Cloud.Snapshot
import InstallCheck.Proofs.NameMap

/-!
Merging as an operation on snapshots: it is associative, and a snapshot without resources changes nothing
on either side. What a list of snapshots holds together can therefore be told table by table, and region
by region.
-/
namespace InstallCheck.Cloud.Snapshot

variable {s t : Snapshot} {snapshots : List Snapshot}

theorem get?_zones_merge {region : String} :
    (s.merge t).zones.get? region = (t.zones.get? region).or (s.zones.get? region) :=
  NameMap.get?_union

@[simp] theorem merge_empty (s : Snapshot) : s.merge ∅ = s := by
  have noRegions : s.zones.union (∅ : Snapshot).zones = s.zones := NameMap.union_empty s.zones
  simp only [merge, noRegions]
  simp [EmptyCollection.emptyCollection, empty]

@[simp] theorem empty_merge (s : Snapshot) : (∅ : Snapshot).merge s = s := by
  have noRegions : (∅ : Snapshot).zones.union s.zones = s.zones := NameMap.empty_union s.zones
  simp only [merge, noRegions]
  simp [EmptyCollection.emptyCollection, empty]

theorem merge_assoc (s t u : Snapshot) : (s.merge t).merge u = s.merge (t.merge u) := by
  simp [merge, NameMap.union_assoc]

instance : Std.Associative merge := ⟨merge_assoc⟩

/-- What some snapshots hold together. The earlier ones come first. -/
def merged (snapshots : List Snapshot) : Snapshot := snapshots.foldl merge ∅

theorem foldl_merge {start : Snapshot} : snapshots.foldl merge start = start.merge (merged snapshots) := by
  have outside : snapshots.foldl merge (start.merge ∅) = start.merge (snapshots.foldl merge ∅) :=
    List.foldl_assoc
  rwa [merge_empty] at outside

theorem merged_cons : merged (s :: snapshots) = s.merge (merged snapshots) := by
  rw [merged, List.foldl_cons, empty_merge, foldl_merge]

/-- A snapshot whose tables are those of several snapshots, one after the other, and in which a region has
the zones that the last snapshot with this region lists. -/
structure Gathers (m : Snapshot) (snapshots : List Snapshot) : Prop where
  zones : ∀ region, m.zones.get? region = snapshots.reverse.findSome? fun s => s.zones.get? region
  resourceGroups : m.resourceGroups = snapshots.flatMap (·.resourceGroups)
  dnsInstances : m.dnsInstances = snapshots.flatMap (·.dnsInstances)
  dnsZones : m.dnsZones = snapshots.flatMap (·.dnsZones)
  images : m.images = snapshots.flatMap (·.images)
  vpcs : m.vpcs = snapshots.flatMap (·.vpcs)
  subnets : m.subnets = snapshots.flatMap (·.subnets)
  instanceProfiles : m.instanceProfiles = snapshots.flatMap (·.instanceProfiles)
  encryptionKeys : m.encryptionKeys = snapshots.flatMap (·.encryptionKeys)

theorem gathers_nil : Gathers ∅ [] where
  zones _ := rfl
  resourceGroups := rfl
  dnsInstances := rfl
  dnsZones := rfl
  images := rfl
  vpcs := rfl
  subnets := rfl
  instanceProfiles := rfl
  encryptionKeys := rfl

theorem Gathers.cons {m : Snapshot} (gathers : m.Gathers snapshots) :
    (s.merge m).Gathers (s :: snapshots) where
  zones region := by
    rw [get?_zones_merge, gathers.zones, List.reverse_cons, List.findSome?_append,
      List.findSome?_singleton]
  resourceGroups := congrArg (s.resourceGroups ++ ·) gathers.resourceGroups
  dnsInstances := congrArg (s.dnsInstances ++ ·) gathers.dnsInstances
  dnsZones := congrArg (s.dnsZones ++ ·) gathers.dnsZones
  images := congrArg (s.images ++ ·) gathers.images
  vpcs := congrArg (s.vpcs ++ ·) gathers.vpcs
  subnets := congrArg (s.subnets ++ ·) gathers.subnets
  instanceProfiles := congrArg (s.instanceProfiles ++ ·) gathers.instanceProfiles
  encryptionKeys := congrArg (s.encryptionKeys ++ ·) gathers.encryptionKeys

theorem gathers_merged (snapshots : List Snapshot) : (merged snapshots).Gathers snapshots := by
  induction snapshots with
  | nil => exact gathers_nil
  | cons s snapshots ih =>
    rw [merged_cons]
    exact ih.cons

/-- The tables of some snapshots and their regions leave nothing open. -/
theorem gathers_iff {m : Snapshot} : m.Gathers snapshots ↔ m = merged snapshots := by
  constructor
  · intro gathers
    have other := gathers_merged snapshots
    have regions : m.zones = (merged snapshots).zones :=
      NameMap.ext_get? fun region => (gathers.zones region).trans (other.zones region).symm
    calc m
      _ = ⟨m.zones, m.resourceGroups, m.dnsInstances, m.dnsZones, m.images, m.vpcs, m.subnets,
            m.instanceProfiles, m.encryptionKeys⟩ := rfl
      _ = merged snapshots := by
        rw [regions, gathers.resourceGroups, gathers.dnsInstances, gathers.dnsZones, gathers.images,
          gathers.vpcs, gathers.subnets, gathers.instanceProfiles, gathers.encryptionKeys,
          ← other.resourceGroups, ← other.dnsInstances, ← other.dnsZones, ← other.images,
          ← other.vpcs, ← other.subnets, ← other.instanceProfiles, ← other.encryptionKeys]
  · rintro rfl
    exact gathers_merged snapshots

end InstallCheck.Cloud.Snapshot
