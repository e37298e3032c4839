import InstallCheck.Proofs.Check.Acceptance
import InstallCheck.Proofs.Check.Likeness

/-!
Snapshots whose tables a check reads alike. What counts is which rows there are and, where a lookup uses
the row that it finds, which one comes first; the accounts of such snapshots get the same report.
-/
namespace InstallCheck

open Cloud (Query Snapshot)

namespace Cloud.Snapshot

/-- Snapshots with the same rows where any row will do, the same first row where it matters which one, and
the same zones in every region. -/
structure ReadAlike (s t : Snapshot) : Prop where
  zones : ∀ region, Option.Rel List.Perm (s.zones.get? region) (t.zones.get? region)
  resourceGroups : ∀ g, g ∈ s.resourceGroups ↔ g ∈ t.resourceGroups
  firstGroup : ∀ text, s.group? text = t.group? text
  dnsInstances : ∀ crn,
    ((∃ i ∈ s.dnsInstances, i.crn = crn) ∨ ∃ z ∈ s.dnsZones, z.instanceCrn = crn) ↔
      (∃ i ∈ t.dnsInstances, i.crn = crn) ∨ ∃ z ∈ t.dnsZones, z.instanceCrn = crn
  firstZone : ∀ crn domain,
    s.dnsZones.find? (fun z => z.instanceCrn = crn && z.name = domain) =
      t.dnsZones.find? (fun z => z.instanceCrn = crn && z.name = domain)
  images : ∀ i, i ∈ s.images ↔ i ∈ t.images
  vpcs : ∀ v, v ∈ s.vpcs ↔ v ∈ t.vpcs
  firstSubnet : ∀ id, s.subnets.find? (·.id = id) = t.subnets.find? (·.id = id)
  instanceProfiles : ∀ m, m ∈ s.instanceProfiles ↔ m ∈ t.instanceProfiles
  encryptionKeys : ∀ k, k ∈ s.encryptionKeys ↔ k ∈ t.encryptionKeys

/-- The group that limits a search is the first that answers to a text. -/
theorem inScope_congr {s t : Snapshot} (firstGroup : ∀ text, s.group? text = t.group? text)
    (scope : Option String) : s.inScope scope = t.inScope scope := by
  have sameId (text : String) : s.groupId text = t.groupId text := by
    rw [groupId, firstGroup, groupId]
  funext v
  cases scope with
  | none => rfl
  | some text => rw [inScope, inScope, sameId]

end Cloud.Snapshot

namespace Check

theorem rel_find?_of_isSome_eq {α : Type} {l m : List α} {p q : α → Bool}
    (same : (l.find? p).isSome = (m.find? q).isSome) :
    Option.Rel (fun _ _ => True) (l.find? p) (m.find? q) := by
  cases here : l.find? p <;> cases there : m.find? q <;> simp [here, there] at same
  · exact .none
  · exact .some trivial

theorem rel_find?_of_mem_iff {α : Type} {l m : List α} {p : α → Bool}
    (members : ∀ a, a ∈ l ↔ a ∈ m) :
    Option.Rel (fun _ _ => True) (l.find? p) (m.find? p) := by
  apply rel_find?_of_isSome_eq
  rw [Bool.eq_iff_iff, List.find?_isSome, List.find?_isSome]
  simp only [members]

theorem resultsAlike_of_eq {q : Query} {r r' : q.Result} (same : r = r') :
    ResultsAlike Eq q r r' := by
  subst same
  cases r with
  | error e => exact .error rfl
  | ok a => exact .ok (Query.readAlike_refl a)

/-- Lookups that find rows which are read alike, or nothing both. -/
theorem resultsAlike_foundOr {q : Query} {resource id : String} {row other : Option q.Answer}
    (related : Option.Rel q.ReadAlike row other) :
    ResultsAlike Eq q (Snapshot.foundOr resource id row) (Snapshot.foundOr resource id other) := by
  cases related with
  | some alike => exact .ok alike
  | none => exact .error rfl

theorem answers_alike {s t : Snapshot} (alike : s.ReadAlike t) (q : Query) :
    ResultsAlike Eq q (s.registerZoneOwners.answer q) (t.registerZoneOwners.answer q) := by
  cases q with
  | vpcZones region => exact resultsAlike_foundOr (alike.zones region)
  | resourceGroup text =>
    exact resultsAlike_of_eq (congrArg (Snapshot.foundOr "resource group" text) (alike.firstGroup text))
  | resourceGroups => exact .ok alike.resourceGroups
  | dnsInstance crn =>
    -- Owners are registered zone by zone, but which ones there are does not depend on the order.
    apply resultsAlike_foundOr
    apply rel_find?_of_isSome_eq
    have owned : (∃ i ∈ s.registerZoneOwners.dnsInstances, i.crn = crn) ↔
        ∃ i ∈ t.registerZoneOwners.dnsInstances, i.crn = crn := by
      rw [Snapshot.exists_registerZoneOwners_iff, Snapshot.exists_registerZoneOwners_iff]
      exact alike.dnsInstances crn
    rw [Bool.eq_iff_iff]
    simpa using owned
  | zoneId crn domain =>
    exact resultsAlike_of_eq (congrArg
      (fun row => Snapshot.foundOr "DNS zone" domain (Option.map Cloud.DnsZone.id row))
      (alike.firstZone crn domain))
  | dnsZones => exact .ok trivial
  | image name region => exact resultsAlike_foundOr (rel_find?_of_mem_iff alike.images)
  | vpc idOrName scope =>
    have sameScope : s.registerZoneOwners.inScope scope = t.registerZoneOwners.inScope scope :=
      Snapshot.inScope_congr alike.firstGroup scope
    simp only [Snapshot.answer, sameScope]
    exact resultsAlike_foundOr (rel_find?_of_mem_iff alike.vpcs)
  | subnet id =>
    exact resultsAlike_of_eq (congrArg (Snapshot.foundOr "subnet" id) (alike.firstSubnet id))
  | instanceProfiles => exact .ok alike.instanceProfiles
  | encryptionKey id => exact resultsAlike_foundOr (rel_find?_of_mem_iff alike.encryptionKeys)

namespace Service

variable {s t : Snapshot} {regions : Region.Catalog} {clock other : List Query → Query → Cloud.Clock}
  {limit : Duration} {c : Install.Config}

theorem check_of_noPlatform {s : Service} {session : Session} (missing : c.platform = none) :
    (s.check session c).1 = .error noPlatform := by
  rw [check, missing]

/-- Undisturbed checks against the accounts of snapshots that are read alike have the same result. -/
theorem check_overSnapshot_congr (alike : s.ReadAlike t)
    (calm : ((overSnapshot s regions clock limit).check (.start limit false) c).2.Undisturbed
      (overSnapshot s regions clock limit).cloud)
    (calmToo : ((overSnapshot t regions other limit).check (.start limit false) c).2.Undisturbed
      (overSnapshot t regions other limit).cloud) :
    ((overSnapshot s regions clock limit).check (.start limit false) c).1 =
      ((overSnapshot t regions other limit).check (.start limit false) c).1 := by
  cases given : c.platform with
  | none => rw [check_of_noPlatform given, check_of_noPlatform given]
  -- Neither run is disturbed, so each report is what the rows of its own snapshot lead to.
  | some p =>
    rw [check_overSnapshot given calm, check_overSnapshot given calmToo,
      value_checks_congr (answers_alike alike)]

end Service

end Check

end InstallCheck
