import InstallCheck.Proofs.Check.Acceptance
import InstallCheck.Proofs.Cloud.Owners

/-!
The zones that are listed are the base domains that are accepted. Listing reads one table and checking a
base domain reads two of them, one after the other; that they agree is because an account lists the owner of
each of its zones, whatever has been done with it.
-/
namespace InstallCheck

open Cloud (Query Clock Account Handles)

namespace Cloud.Account

variable {a : Account}

/-- An account in which nothing is made to fail answers with the rows of its tables. -/
theorem answer_of_sound (sound : a.faults = ∅) (q : Query) : a.answer q = a.state.answer q := by
  rw [answer, sound]
  rfl

/-- What an undisturbed run yields against an account in which nothing is made to fail or delayed. -/
theorem run_of_sound {α : Type} {clock : List Query → Query → Clock} {limit : Duration}
    (i : Check.Inquiry α) (sound : a.faults = ∅) (instant : a.latency = none)
    (calm : (i.run (a.cloudOn clock) (.start limit false)).2.Undisturbed (a.cloudOn clock)) :
    (i.run (a.cloudOn clock) (.start limit false)).1 = i.value a.state.answer :=
  i.run_eq_value (fun _ q => (result_cloudOn instant).trans (answer_of_sound sound q)) rfl calm

end Cloud.Account

namespace Check

open InstallCheck.Field (Path)

/-- Where every zone has an id and its owner is listed, any zone of an instance will do for its name. -/
theorem Platform.dnsInstance_clean_iff_zone {s : Cloud.Snapshot} {domain crn : String} {path : Path}
    (listed : s.OwnersListed) (named : ∀ z ∈ s.dnsZones, z.id ≠ "") :
    (dnsInstance domain crn path).Clean s.answer ↔
      ∃ z ∈ s.dnsZones, z.instanceCrn = crn ∧ z.name = domain := by
  rw [← Cloud.Snapshot.registerZoneOwners_eq_self_iff.mpr listed, dnsInstance_clean_iff_row,
    Cloud.Snapshot.registerZoneOwners_eq_self_iff.mpr listed]
  constructor
  · rintro ⟨z, found, -⟩
    have matched := List.find?_some found
    simp only [Bool.and_eq_true, decide_eq_true_eq] at matched
    exact ⟨z, List.mem_of_find?_eq_some found, matched⟩
  · rintro ⟨z, member, matched⟩
    -- The first such zone need not be this one, but it has an id as well.
    have someZone : (s.dnsZones.find? fun z => z.instanceCrn = crn && z.name = domain).isSome := by
      rw [List.find?_isSome]
      exact ⟨z, member, by simpa using matched⟩
    obtain ⟨first, found⟩ := Option.isSome_iff_exists.mp someZone
    exact ⟨first, found, named first (List.mem_of_find?_eq_some found)⟩

namespace Service

theorem value_zoneList {answers : (q : Query) → q.Result} :
    zoneList.value answers =
      (answers .dnsZones).map (·.mergeSort fun y z => y.name ≤ z.name) := by
  rw [zoneList, Inquiry.value_query_bind]
  cases answers .dnsZones <;> rfl

theorem dnsZones_eq (s : Service) :
    s.dnsZones =
      ((zoneList.run s.cloud s.newSession).1.mapError .lookup,
        (zoneList.run s.cloud s.newSession).2) := by
  rw [dnsZones]
  rcases zoneList.run s.cloud s.newSession with ⟨_ | _, _⟩ <;> rfl

variable {a : Account} {regions : Region.Catalog} {clock other : List Query → Query → Clock}
  {limit patience : Duration}

/-- An undisturbed listing of an account in which nothing is made to fail or delayed has every zone, by
name. -/
theorem dnsZones_of_sound (sound : a.faults = ∅) (instant : a.latency = none)
    (calm : (dnsZones ⟨a.cloudOn clock, regions, limit⟩).2.Undisturbed (a.cloudOn clock)) :
    (dnsZones ⟨a.cloudOn clock, regions, limit⟩).1 =
      .ok (a.state.dnsZones.mergeSort fun y z => y.name ≤ z.name) := by
  rw [dnsZones_eq] at calm ⊢
  have listing := Cloud.Account.run_of_sound zoneList sound instant calm
  exact congrArg (·.mapError CheckError.lookup) (listing.trans value_zoneList)

/-- **The zones that are listed are the base domains that are accepted.** After any actions, if nothing is
made to fail or delayed in the account of a handle and all of its zones have an id, then it can be listed,
and a service instance and base domain are accepted exactly when one of the listed zones has that owner and
name. -/
theorem dnsInstance_accepts_listed_iff {actions : List Handles.Action} {handle : Nat}
    {domain crn : String} {path : Path} (held : (Handles.after actions).account? handle = some a)
    (sound : a.faults = ∅) (instant : a.latency = none) (named : ∀ z ∈ a.state.dnsZones, z.id ≠ "")
    (calm : ((Platform.dnsInstance domain crn path).run (a.cloudOn clock)
      (.start limit false)).2.Undisturbed (a.cloudOn clock))
    (calmToo : (dnsZones ⟨a.cloudOn other, regions, patience⟩).2.Undisturbed (a.cloudOn other)) :
    ∃ zones, (dnsZones ⟨a.cloudOn other, regions, patience⟩).1 = .ok zones ∧
      (((Platform.dnsInstance domain crn path).run (a.cloudOn clock) (.start limit false)).1 = [] ↔
        ∃ z ∈ zones, z.instanceCrn = crn ∧ z.name = domain) := by
  have listed := Handles.ownersListed_after actions a (Handles.mem_accounts_of_account? held)
  refine ⟨_, dnsZones_of_sound sound instant calmToo, ?_⟩
  rw [Cloud.Account.run_of_sound _ sound instant calm]
  simp only [List.mem_mergeSort]
  exact Platform.dnsInstance_clean_iff_zone listed named

/-- The zones of a merged account are listed, and the domain of one of them is accepted of its owner but not
of the owner of the other one. -/
theorem dnsInstance_accepts_listed_merged :
    (Handles.after Handles.sampleActions).account? 3 = some Handles.merged ∧
    (∀ z ∈ Handles.merged.state.dnsZones, z.id ≠ "") ∧
    (dnsZones ⟨Handles.merged.cloudOn fun _ _ => .exact, .builtIn, .ofSeconds 60⟩).1 =
      .ok [⟨"zone-1", "one.domain", "crn:one", "one"⟩, ⟨"zone-2", "two.domain", "crn:two", "two"⟩] ∧
    ((Platform.dnsInstance "two.domain" "crn:two" (.top "platform")).run
      (Handles.merged.cloudOn fun _ _ => .exact) (.start (.ofSeconds 60) false)).1 = [] ∧
    ((Platform.dnsInstance "two.domain" "crn:one" (.top "platform")).run
      (Handles.merged.cloudOn fun _ _ => .exact) (.start (.ofSeconds 60) false)).1 ≠ [] := by
  have held : (Handles.after Handles.sampleActions).account? 3 = some Handles.merged := by decide
  have named : ∀ z ∈ Handles.merged.state.dnsZones, z.id ≠ "" := by decide
  have quick {session : Session} (allowed : session.limit = .ofSeconds 60) :
      session.Undisturbed (Handles.merged.cloudOn fun _ _ => .exact) :=
    Account.undisturbed_cloudOn rfl fun _ _ => by rw [allowed]; decide
  have calm : (dnsZones ⟨Handles.merged.cloudOn fun _ _ => .exact, .builtIn,
      .ofSeconds 60⟩).2.Undisturbed (Handles.merged.cloudOn fun _ _ => .exact) :=
    quick (by rw [dnsZones_eq, Inquiry.run_limit]; rfl)
  have listing : (dnsZones ⟨Handles.merged.cloudOn fun _ _ => .exact, .builtIn, .ofSeconds 60⟩).1 =
      .ok [⟨"zone-1", "one.domain", "crn:one", "one"⟩,
        ⟨"zone-2", "two.domain", "crn:two", "two"⟩] := by
    rw [dnsZones_of_sound rfl rfl calm]
    simp [Handles.merged, List.mergeSort]
  have accepts (crn : String) :
      ((Platform.dnsInstance "two.domain" crn (.top "platform")).run
          (Handles.merged.cloudOn fun _ _ => .exact) (.start (.ofSeconds 60) false)).1 = [] ↔
        ∃ z ∈ Handles.merged.state.dnsZones, z.instanceCrn = crn ∧ z.name = "two.domain" := by
    obtain ⟨zones, lists, accepted⟩ :=
      dnsInstance_accepts_listed_iff held rfl rfl named (quick (Inquiry.run_limit ..)) calm
    cases listing.symm.trans lists
    exact accepted
  exact ⟨held, named, listing, (accepts "crn:two").mpr (by decide),
    fun accepted => absurd ((accepts "crn:one").mp accepted) (by decide)⟩

end Service

end Check

end InstallCheck
