import InstallCheck.Proofs.Check.Tables
import InstallCheck.Proofs.Cloud.Owners

/-!
Owners of DNS zones may be registered before snapshots are merged or after. The tables need not be the
same then, as an owner that each of two snapshots lacks is registered in both; but a check only asks
whether an instance is there.
-/
namespace InstallCheck

open Cloud (Account Clock DnsInstance Query Snapshot)

namespace Cloud.Snapshot

/-- An instance that has been registered in either of two snapshots owns a zone of the merge. -/
theorem readAlike_merge_registerZoneOwners (s t : Snapshot) :
    (s.merge t).ReadAlike (s.registerZoneOwners.merge t.registerZoneOwners) where
  zones region := by
    change Option.Rel List.Perm ((s.merge t).zones.get? region) ((s.merge t).zones.get? region)
    cases (s.merge t).zones.get? region with
    | none => exact .none
    | some valid => exact .some (.refl _)
  resourceGroups _ := .rfl
  firstGroup _ := rfl
  dnsInstances crn := by
    have owned (u : Snapshot) : (∃ i ∈ u.registerZoneOwners.dnsInstances, i.crn = crn) ↔
        (∃ i ∈ u.dnsInstances, i.crn = crn) ∨ ∃ z ∈ u.dnsZones, z.instanceCrn = crn :=
      exists_registerZoneOwners_iff
    simp only [merge, List.mem_append, or_and_right, exists_or, owned]
    have sameZones (u : Snapshot) : u.registerZoneOwners.dnsZones = u.dnsZones := rfl
    simp only [sameZones]
    grind
  firstZone _ _ := rfl
  images _ := .rfl
  vpcs _ := .rfl
  firstSubnet _ := rfl
  instanceProfiles _ := .rfl
  encryptionKeys _ := .rfl

end Cloud.Snapshot

namespace Check.Service

/-- Two snapshots with a zone each, of one instance that goes by two names. -/
def oneName : Snapshot :=
  { (∅ : Snapshot) with dnsZones := [⟨"zone-1", "one.domain", "crn:shared", "one"⟩] }

@[inherit_doc oneName]
def otherName : Snapshot :=
  { (∅ : Snapshot) with dnsZones := [⟨"zone-2", "other.domain", "crn:shared", "other"⟩] }

/-- **Registering owners is exact, needed once, and may come before merging or after.** The account of a
snapshot holds its tables, followed by the missing owners of its zones; the account of that is the same
again. Undisturbed checks have the same result whether the owners are registered in two snapshots or in
their merge, though the instances that are listed may differ. -/
theorem registration_commutes_with_merge :
    (∀ s : Snapshot,
      (∃ missing, (Account.ofSnapshot s).state = { s with dnsInstances := s.dnsInstances ++ missing } ∧
        Snapshot.MissingOwners s.dnsInstances s.dnsZones missing) ∧
      (Account.ofSnapshot (Account.ofSnapshot s).state).state = (Account.ofSnapshot s).state) ∧
    (∀ (s t : Snapshot) (regions : Region.Catalog) (clock other : List Query → Query → Clock)
        (limit : Duration) (c : Install.Config),
      let merged := overSnapshot (s.merge t) regions clock limit
      let registered := overSnapshot
        ((Account.ofSnapshot s).state.merge (Account.ofSnapshot t).state) regions other limit
      (merged.check (.start limit false) c).2.Undisturbed merged.cloud →
      (registered.check (.start limit false) c).2.Undisturbed registered.cloud →
        (merged.check (.start limit false) c).1 = (registered.check (.start limit false) c).1) ∧
    ∃ s t : Snapshot, (Account.ofSnapshot (s.merge t)).state.dnsInstances ≠
      (Account.ofSnapshot
        ((Account.ofSnapshot s).state.merge (Account.ofSnapshot t).state)).state.dnsInstances := by
  refine ⟨fun s => ⟨?_, ?_⟩, ?_, oneName, otherName, by decide⟩
  · obtain ⟨missing, all, owners⟩ := Snapshot.exists_missingOwners s.dnsInstances s.dnsZones
    exact ⟨missing, congrArg (fun is => { s with dnsInstances := is }) all, owners⟩
  · exact Snapshot.registerZoneOwners_eq_self_iff.mpr (Account.ownersListed_ofSnapshot s)
  · intro s t regions clock other limit c merged registered calm calmToo
    exact check_overSnapshot_congr (Snapshot.readAlike_merge_registerZoneOwners s t) calm calmToo

/-- The sample config with the instance of two names. -/
def sharedInstance : Install.Config :=
  { Sample.config with
    baseDomain := "other.domain"
    platform := some { Sample.platform with dnsInstanceCrn := "crn:shared" } }

/-- An account that lists the instance under both names gets the report of one that lists it once. -/
theorem registration_commutes_with_merge_two_names :
    (Account.ofSnapshot (oneName.merge otherName)).state.dnsInstances = [⟨"crn:shared", "one"⟩] ∧
    ((Account.ofSnapshot oneName).state.merge (Account.ofSnapshot otherName).state).dnsInstances =
      [⟨"crn:shared", "one"⟩, ⟨"crn:shared", "other"⟩] ∧
    ((atOnce (oneName.merge otherName)).check (.start (.ofSeconds 60) false) sharedInstance).1 =
      ((atOnce ((Account.ofSnapshot oneName).state.merge (Account.ofSnapshot otherName).state)).check
        (.start (.ofSeconds 60) false) sharedInstance).1 :=
  ⟨by decide, by decide,
    registration_commutes_with_merge.2.1 oneName otherName _ _ _ _ sharedInstance undisturbed_atOnce
      undisturbed_atOnce⟩

end Check.Service

end InstallCheck
