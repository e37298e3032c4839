import InstallCheck.Proofs.Check.Tables
import InstallCheck.Proofs.NameMap
import Mathlib.Data.List.Find

/-!
The order in which an account lists its resources does not show in a report, as long as no lookup has two
different rows to choose from.
-/
namespace InstallCheck

open Cloud (Query Clock Snapshot Account)

namespace Cloud.Snapshot

/-- The same regions, and the same zones and rows in another order. -/
structure Reordered (s t : Snapshot) : Prop where
  regions : s.zones.names = t.zones.names
  zones : ∀ region valid others, s.zones.get? region = some valid →
    t.zones.get? region = some others → valid.Perm others
  resourceGroups : s.resourceGroups.Perm t.resourceGroups
  dnsInstances : s.dnsInstances.Perm t.dnsInstances
  dnsZones : s.dnsZones.Perm t.dnsZones
  images : s.images.Perm t.images
  vpcs : s.vpcs.Perm t.vpcs
  subnets : s.subnets.Perm t.subnets
  instanceProfiles : s.instanceProfiles.Perm t.instanceProfiles
  encryptionKeys : s.encryptionKeys.Perm t.encryptionKeys

/-- No text is the id or name of two groups, no instance has two zones of one name, and no two subnets
have one id; a row may be listed twice. -/
structure Unambiguous (s : Snapshot) : Prop where
  resourceGroups : ∀ g ∈ s.resourceGroups, ∀ h ∈ s.resourceGroups, ∀ text,
    (g.id = text ∨ g.name = text) → (h.id = text ∨ h.name = text) → g = h
  dnsZones : ∀ y ∈ s.dnsZones, ∀ z ∈ s.dnsZones,
    y.instanceCrn = z.instanceCrn → y.name = z.name → y = z
  subnets : ∀ m ∈ s.subnets, ∀ n ∈ s.subnets, m.id = n.id → m = n

variable {s t : Snapshot}

theorem Reordered.zones_rel (reordered : s.Reordered t) (region : String) :
    Option.Rel List.Perm (s.zones.get? region) (t.zones.get? region) := by
  have sameRegion : (∃ valid, s.zones.get? region = some valid) ↔
      ∃ others, t.zones.get? region = some others := by
    rw [← NameMap.mem_names_iff, ← NameMap.mem_names_iff, reordered.regions]
  cases here : s.zones.get? region with
  | none =>
    cases there : t.zones.get? region with
    | none => exact .none
    | some others => simp [here, there] at sameRegion
  | some valid =>
    obtain ⟨others, there⟩ := sameRegion.mp ⟨valid, here⟩
    rw [there]
    exact .some (reordered.zones region valid others here there)

/-- Where no lookup has a choice, the order of the rows does not decide what it finds. -/
theorem Reordered.readAlike (reordered : s.Reordered t) (unambiguous : s.Unambiguous) :
    s.ReadAlike t where
  zones := reordered.zones_rel
  resourceGroups _ := reordered.resourceGroups.mem_iff
  firstGroup text := by
    apply List.find?_eq_find?_of_perm reordered.resourceGroups
    rintro g ⟨listed, answers⟩ h ⟨listedToo, answersToo⟩
    exact unambiguous.resourceGroups g listed h listedToo text
      (ResourceGroup.answersTo_iff.mp answers) (ResourceGroup.answersTo_iff.mp answersToo)
  dnsInstances crn := by
    simp only [reordered.dnsInstances.mem_iff, reordered.dnsZones.mem_iff]
  -- A zone is found by its owner and its name, which together belong to one zone only.
  firstZone crn domain := by
    apply List.find?_eq_find?_of_perm reordered.dnsZones
    rintro y ⟨listed, found⟩ z ⟨listedToo, foundToo⟩
    simp only [Bool.and_eq_true, decide_eq_true_eq] at found foundToo
    exact unambiguous.dnsZones y listed z listedToo (found.1.trans foundToo.1.symm)
      (found.2.trans foundToo.2.symm)
  images _ := reordered.images.mem_iff
  vpcs _ := reordered.vpcs.mem_iff
  firstSubnet id := by
    apply List.find?_eq_find?_of_perm reordered.subnets
    rintro m ⟨listed, found⟩ n ⟨listedToo, foundToo⟩
    simp only [decide_eq_true_eq] at found foundToo
    exact unambiguous.subnets m listed n listedToo (found.trans foundToo.symm)
  instanceProfiles _ := reordered.instanceProfiles.mem_iff
  encryptionKeys _ := reordered.encryptionKeys.mem_iff

end Cloud.Snapshot

namespace Check.Service

variable {s t : Snapshot} {regions : Region.Catalog} {clock other : List Query → Query → Clock}
  {limit : Duration} {c : Install.Config}

/-- **The order of rows does not show.** Undisturbed checks against the accounts of two snapshots that
list the same rows in different orders have the same result, if no lookup has two rows to choose from. -/
theorem check_reordered (reordered : s.Reordered t) (unambiguous : s.Unambiguous)
    (calm : ((overSnapshot s regions clock limit).check (.start limit false) c).2.Undisturbed
      (overSnapshot s regions clock limit).cloud)
    (calmToo : ((overSnapshot t regions other limit).check (.start limit false) c).2.Undisturbed
      (overSnapshot t regions other limit).cloud) :
    ((overSnapshot s regions clock limit).check (.start limit false) c).1 =
      ((overSnapshot t regions other limit).check (.start limit false) c).1 :=
  check_overSnapshot_congr (reordered.readAlike unambiguous) calm calmToo

/-- The contents of the sample account in another order. -/
def turned : Snapshot :=
  { Sample.snapshot with
    zones := .ofList [("us-south", ["us-south-1", "us-south-2"])]
    resourceGroups := Sample.snapshot.resourceGroups.reverse
    subnets := Sample.snapshot.subnets.reverse }

/-- The sample config, but for a zone that its region does not have. -/
def misplaced : Install.Config :=
  { Sample.config with
    controlPlane := some ⟨"master", some 3, some { Sample.machines with zones := ["us-south-3"] }⟩ }

theorem reordered_turned : Sample.snapshot.Reordered turned where
  regions := rfl
  zones region valid others here there := by
    have listed : (region, valid) = ("us-south", ["us-south-2", "us-south-1"]) :=
      List.mem_singleton.mp (NameMap.mem_entries_iff.mpr here)
    have listedToo : (region, others) = ("us-south", ["us-south-1", "us-south-2"]) :=
      List.mem_singleton.mp (NameMap.mem_entries_iff.mpr there)
    cases listed
    cases listedToo
    exact .swap _ _ _
  resourceGroups := (List.reverse_perm _).symm
  dnsInstances := .refl _
  dnsZones := .refl _
  images := .refl _
  vpcs := .refl _
  subnets := (List.reverse_perm _).symm
  instanceProfiles := .refl _
  encryptionKeys := .refl _

theorem unambiguous_sample : Sample.snapshot.Unambiguous where
  resourceGroups g listed h listedToo text answers answersToo := by
    simp only [Sample.snapshot, List.mem_cons, List.not_mem_nil, or_false] at listed listedToo
    rcases listed with rfl | rfl <;> rcases listedToo with rfl | rfl
    · rfl
    · rcases answers with rfl | rfl <;> simp at answersToo
    · rcases answers with rfl | rfl <;> simp at answersToo
    · rfl
  dnsZones := by decide
  subnets := by decide

/-- The zone is reported, and alike against both accounts. -/
theorem check_reordered_turned :
    Sample.snapshot.Reordered turned ∧ Sample.snapshot.Unambiguous ∧
    ((atOnce Sample.snapshot).check (.start (.ofSeconds 60) false) misplaced).1 ≠ .ok [] ∧
    ((atOnce Sample.snapshot).check (.start (.ofSeconds 60) false) misplaced).1 =
      ((atOnce turned).check (.start (.ofSeconds 60) false) misplaced).1 := by
  refine ⟨reordered_turned, unambiguous_sample, fun accepted => ?_,
    check_reordered reordered_turned unambiguous_sample undisturbed_atOnce undisturbed_atOnce⟩
  rw [atOnce, check_overSnapshot (p := Sample.platform) rfl undisturbed_atOnce] at accepted
  have satisfied := checks_clean_iff_satisfies.mp (Except.ok.inj accepted)
  obtain ⟨valid, known, within⟩ := (satisfied.controlPlane _ _ rfl rfl).zones (by decide)
  cases known
  exact absurd (within "us-south-3" (by decide)) (by decide)

end Check.Service

end InstallCheck
