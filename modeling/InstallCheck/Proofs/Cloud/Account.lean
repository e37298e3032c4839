import InstallCheck.Cloud.Account
import InstallCheck.Proofs.Inquiry.Run

/-!
What an account in memory answers as long as nothing is made to fail or to take long: the rows of its
tables. An account made of a snapshot lists, beside the service instances of the snapshot, the owners of
its DNS zones.
-/
namespace InstallCheck

namespace Cloud

theorem ResourceGroup.answersTo_iff {g : ResourceGroup} {idOrName : String} :
    g.answersTo idOrName = true ↔ g.id = idOrName ∨ g.name = idOrName := by
  simp [answersTo]

theorem Vpc.answersTo_iff {v : Vpc} {idOrName : String} :
    v.answersTo idOrName = true ↔ v.id = idOrName ∨ v.name = idOrName := by
  simp [answersTo]

namespace Snapshot

variable {s : Snapshot}

@[simp] theorem foundOr_eq_ok {α : Type} {resource id : String} {found : Option α} {row : α} :
    foundOr resource id found = .ok row ↔ found = some row := by
  cases found <;> simp [foundOr]

theorem exists_group?_iff {idOrName : String} :
    (∃ g, s.group? idOrName = some g) ↔
      ∃ g ∈ s.resourceGroups, g.id = idOrName ∨ g.name = idOrName := by
  simp only [group?, ← Option.isSome_iff_exists, List.find?_isSome, ResourceGroup.answersTo_iff]

theorem answersTo_of_group? {idOrName : String} {g : ResourceGroup}
    (found : s.group? idOrName = some g) :
    g ∈ s.resourceGroups ∧ (g.id = idOrName ∨ g.name = idOrName) := by
  rw [group?] at found
  have answers := List.find?_some found
  exact ⟨List.mem_of_find?_eq_some found, ResourceGroup.answersTo_iff.mp answers⟩

theorem groupId_of_group? {idOrName : String} {g : ResourceGroup}
    (found : s.group? idOrName = some g) : s.groupId idOrName = g.id := by
  rw [groupId, found]

/-- The id of a group that was found belongs to some group, though not always to that one first. -/
theorem exists_group?_id {idOrName : String} {g : ResourceGroup}
    (found : s.group? idOrName = some g) : ∃ h, s.group? g.id = some h :=
  exists_group?_iff.mpr ⟨g, (answersTo_of_group? found).1, .inl rfl⟩

/-- A private cloud is found when some row answers to the text and lies in the group, if one is given,
that its id or name stands for. -/
theorem exists_answer_vpc_iff {idOrName : String} {scope : Option String} :
    (∃ v, s.answer (.vpc idOrName scope) = .ok v) ↔
      ∃ v ∈ s.vpcs, (v.id = idOrName ∨ v.name = idOrName) ∧
        ∀ group, scope = some group → v.resourceGroupId = s.groupId group := by
  simp only [answer, foundOr_eq_ok, ← Option.isSome_iff_exists, List.find?_isSome,
    Bool.and_eq_true, Vpc.answersTo_iff]
  cases scope <;> simp [inScope]

theorem exists_addOwner_iff {instances : List DnsInstance} {z : DnsZone} {crn : String} :
    (∃ i ∈ addOwner instances z, i.crn = crn) ↔
      (∃ i ∈ instances, i.crn = crn) ∨ z.instanceCrn = crn := by
  unfold addOwner
  split
  · rename_i listed
    simp only [List.any_eq_true, decide_eq_true_eq] at listed
    constructor
    · exact .inl
    · rintro (known | rfl)
      · exact known
      · exact listed
  · simp [or_and_right, exists_or]

/-- The service instances of an account are those of the snapshot and the owners of its zones. -/
theorem exists_registerZoneOwners_iff {crn : String} :
    (∃ i ∈ s.registerZoneOwners.dnsInstances, i.crn = crn) ↔
      (∃ i ∈ s.dnsInstances, i.crn = crn) ∨ ∃ z ∈ s.dnsZones, z.instanceCrn = crn := by
  unfold registerZoneOwners
  -- The list grows with every zone, so the statement is about any list to begin with.
  generalize s.dnsInstances = instances
  induction s.dnsZones generalizing instances with
  | nil => simp
  | cons z zones ih =>
    simp only [List.foldl_cons, ih, exists_addOwner_iff, List.mem_cons, exists_eq_or_imp, or_assoc]

end Snapshot

/-- The last look tells whether a wait was cut short. -/
theorem Wait.cancelled_eq {clock : Clock} {raised : Duration → Bool} {deadline now : Duration} :
    (Wait.loop clock raised deadline now).cancelled =
      raised (Wait.loop clock raised deadline now).ended := by
  fun_induction Wait.loop clock raised deadline now with
  | case1 now up => exact up.symm
  | case2 now down expired => exact (Bool.eq_false_iff.mpr down).symm
  | case3 now down unfinished pause rest ih => exact ih

namespace Account

variable {a : Account} {clock : List Query → Query → Clock} {limit : Duration}
  {earlier : List Query} {q : Query}

/-- An account as a cloud that is never cancelled from outside, with a clock for each lookup. -/
def cloudOn (a : Account) (clock : List Query → Query → Clock) : Cloud := fun limit earlier q =>
  a.reply (clock earlier q) (fun _ => false) limit q

/-- An account without a delay answers a lookup alike whenever it is made, on any clock. -/
theorem result_cloudOn (instant : a.latency = none) :
    (a.cloudOn clock limit earlier q).result = a.answer q := by
  simp [cloudOn, reply, lookup, instant]

/-- Nothing disturbs a run against such an account whose clocks take no longer than is allowed. -/
theorem undisturbed_cloudOn {session : Check.Session} (instant : a.latency = none)
    (quick : ∀ earlier q, (clock earlier q).done ⟨0⟩ ≤ session.limit) :
    session.Undisturbed (a.cloudOn clock) := by
  apply Check.Session.undisturbed_of_timely
  intro earlier q
  simpa [Check.Timely, cloudOn, reply, lookup, instant] using quick earlier q

end Account

end Cloud

end InstallCheck
