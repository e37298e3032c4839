import InstallCheck.Cloud.Handles
import InstallCheck.Proofs.Cloud.Account

/-!
Accounts in memory list the owner of each of their DNS zones, whatever is done with the handles that
share them. Registering owners puts exactly the missing ones behind those that are listed. It is needed
once, when an account is made, and an account built from the snapshot of another one holds the same
tables.
-/
namespace InstallCheck.Cloud

namespace Snapshot

variable {s : Snapshot}

/-- The service instance that manages a zone is listed, for every zone. -/
def OwnersListed (s : Snapshot) : Prop :=
  ∀ z ∈ s.dnsZones, ∃ i ∈ s.dnsInstances, i.crn = z.instanceCrn

theorem addOwner_eq_self {instances : List DnsInstance} {z : DnsZone}
    (listed : ∃ i ∈ instances, i.crn = z.instanceCrn) : addOwner instances z = instances := by
  have known : instances.any (·.crn = z.instanceCrn) = true := by simpa using listed
  rw [addOwner, if_pos known]

theorem ownersListed_registerZoneOwners (s : Snapshot) : s.registerZoneOwners.OwnersListed :=
  fun z member => exists_registerZoneOwners_iff.mpr (.inr ⟨z, member, rfl⟩)

/-- There is nothing to register exactly when every owner is listed. -/
theorem registerZoneOwners_eq_self_iff : s.registerZoneOwners = s ↔ s.OwnersListed := by
  constructor
  · intro same
    rw [← same]
    exact ownersListed_registerZoneOwners s
  · intro listed
    have unchanged : s.dnsZones.foldl addOwner s.dnsInstances = s.dnsInstances := by
      unfold OwnersListed at listed
      -- A zone whose owner is listed adds nothing, so every zone meets the same list.
      generalize s.dnsZones = zones at listed
      induction zones with
      | nil => rfl
      | cons z zones ih =>
        rw [List.forall_mem_cons] at listed
        rw [List.foldl_cons, addOwner_eq_self listed.1]
        exact ih listed.2
    rw [registerZoneOwners, unchanged]

/-- One instance for each owner of some zones that is not listed yet, in the order in which these zones
name the owners first, each with the name that the first zone of the owner gives it. -/
structure MissingOwners (listed : List DnsInstance) (zones : List DnsZone) (missing : List DnsInstance) :
    Prop where
  crns : missing.map (·.crn) =
    ((zones.map (·.instanceCrn)).filter fun crn => ∀ i ∈ listed, i.crn ≠ crn).eraseDups
  names : ∀ i ∈ missing, ∃ z, zones.find? (·.instanceCrn = i.crn) = some z ∧ i.name = z.instanceName

section Missing

variable {listed missing : List DnsInstance} {z : DnsZone} {zones : List DnsZone}

theorem MissingOwners.not_listed (owners : MissingOwners listed zones missing) :
    ∀ i ∈ missing, ∀ j ∈ listed, j.crn ≠ i.crn := by
  intro i member
  have named : i.crn ∈ missing.map (·.crn) := List.mem_map_of_mem member
  rw [owners.crns, List.mem_eraseDups, List.mem_filter] at named
  simpa using named.2

/-- The owner of one more zone is listed already. -/
theorem MissingOwners.cons_of_listed (owners : MissingOwners listed zones missing)
    (known : ∃ i ∈ listed, i.crn = z.instanceCrn) : MissingOwners listed (z :: zones) missing where
  crns := by
    have kept : ¬ ∀ i ∈ listed, i.crn ≠ z.instanceCrn := by simpa using known
    rw [List.map_cons, List.filter_cons_of_neg (by simpa using kept), owners.crns]
  names i member := by
    obtain ⟨j, among, manages⟩ := known
    have other : z.instanceCrn ≠ i.crn := manages ▸ owners.not_listed i member j among
    rw [List.find?_cons_of_neg (by simpa using other)]
    exact owners.names i member

/-- The owner of one more zone is missing; it is listed for the zones after that one. -/
theorem MissingOwners.cons_of_missing
    (owners : MissingOwners (listed ++ [⟨z.instanceCrn, z.instanceName⟩]) zones missing)
    (unknown : ∀ i ∈ listed, i.crn ≠ z.instanceCrn) :
    MissingOwners listed (z :: zones) (⟨z.instanceCrn, z.instanceName⟩ :: missing) where
  crns := by
    rw [List.map_cons, List.map_cons, List.filter_cons_of_pos (by simpa using unknown),
      List.eraseDups_cons, List.filter_filter, owners.crns]
    congr 2
    apply List.filter_congr
    intro crn _
    rw [Bool.eq_iff_iff]
    simp only [List.mem_append, List.mem_singleton, or_imp, forall_and, forall_eq, decide_eq_true_eq,
      Bool.and_eq_true, Bool.not_eq_true', beq_eq_false_iff_ne, ne_eq]
    rw [and_comm, eq_comm]
  names i member := by
    rcases List.mem_cons.mp member with rfl | later
    · exact ⟨z, List.find?_cons_of_pos (by simp), rfl⟩
    · have other : z.instanceCrn ≠ i.crn :=
        owners.not_listed i later ⟨z.instanceCrn, z.instanceName⟩ (by simp)
      rw [List.find?_cons_of_neg (by simpa using other)]
      exact owners.names i later

/-- Zone by zone, exactly the missing owners are put behind a list. -/
theorem exists_missingOwners (listed : List DnsInstance) (zones : List DnsZone) :
    ∃ missing, zones.foldl addOwner listed = listed ++ missing ∧ MissingOwners listed zones missing := by
  -- What a zone adds is listed for the zones after it, so the statement is about any list.
  induction zones generalizing listed with
  | nil => exact ⟨[], by simp, ⟨rfl, by simp⟩⟩
  | cons z zones ih =>
    rw [List.foldl_cons]
    by_cases known : ∃ i ∈ listed, i.crn = z.instanceCrn
    · rw [addOwner_eq_self known]
      obtain ⟨missing, all, owners⟩ := ih listed
      exact ⟨missing, all, owners.cons_of_listed known⟩
    · have unknown : ∀ i ∈ listed, i.crn ≠ z.instanceCrn := by simpa using known
      have added : addOwner listed z = listed ++ [⟨z.instanceCrn, z.instanceName⟩] := by
        rw [addOwner, if_neg (by simpa using known)]
      rw [added]
      obtain ⟨missing, all, owners⟩ := ih (listed ++ [⟨z.instanceCrn, z.instanceName⟩])
      exact ⟨_, by rw [all, List.append_assoc]; rfl, owners.cons_of_missing unknown⟩

end Missing

end Snapshot

namespace Account

theorem ownersListed_ofSnapshot (s : Snapshot) : (ofSnapshot s).state.OwnersListed :=
  Snapshot.ownersListed_registerZoneOwners s

/-- Every change keeps the owners listed: a new instance only adds to the list, a new zone registers its
owner, and no other change concerns either table. -/
theorem ownersListed_apply {a : Account} (listed : a.state.OwnersListed) (change : Change) :
    (a.apply change).state.OwnersListed := by
  cases change with
  | dnsInstance i =>
    intro z member
    obtain ⟨owner, among, manages⟩ := listed z member
    exact ⟨owner, List.mem_append_left _ among, manages⟩
  | dnsZone z => exact Snapshot.ownersListed_registerZoneOwners _
  | region | resourceGroup | image | vpc | subnet | instanceProfile | encryptionKey | fault | latency =>
    exact listed

end Account

namespace Handles

/-- What a holder of handles may do: take a step, or look something up through a handle. -/
inductive Action
  | step (s : Step)
  | lookup (handle : Nat) (clock : Clock) (raised : Duration → Bool) (limit : Duration) (q : Query)

/-- What an action answers, if it is a lookup through a handle that exists, and the handles after it. -/
def perform (hs : Handles) : Action → Option (Σ q : Query, q.Result) × Handles
  | .step s => (none, hs.apply s)
  | .lookup handle clock raised limit q =>
    ((hs.account? handle).map fun a => ⟨q, (a.lookup clock raised limit q).1⟩, hs)

/-- The handles after a list of actions, to begin with none. -/
def after (actions : List Action) : Handles :=
  actions.foldl (fun hs action => (hs.perform action).2) empty

/-- Every account lists the owners of its zones. -/
def OwnersListed (hs : Handles) : Prop := ∀ a ∈ hs.accounts, a.state.OwnersListed

variable {hs : Handles} {handle : Nat} {a : Account}

theorem mem_accounts_of_account? (held : hs.account? handle = some a) : a ∈ hs.accounts := by
  obtain ⟨_, -, found⟩ := Option.bind_eq_some_iff.mp held
  exact List.mem_of_getElem? found

/-- The handle that is added last holds the account that was added with it. -/
@[simp] theorem account?_add : (hs.add a).account? hs.held.length = some a := by
  simp [account?, add]

/-- An account after a step was there before, is empty, is made of a snapshot, or has been changed. -/
theorem mem_accounts_apply {step : Step} (member : a ∈ (hs.apply step).accounts) :
    a ∈ hs.accounts ∨ a = .empty ∨ (∃ contents, a = .ofSnapshot contents) ∨
      ∃ b ∈ hs.accounts, ∃ change, a = b.apply change := by
  have added {b : Account} (member : a ∈ (hs.add b).accounts) : a ∈ hs.accounts ∨ a = b := by
    simpa [add] using member
  cases step with
  | fresh => exact (added member).imp_right .inl
  | ofSnapshot contents => exact (added member).imp_right fun made => .inr (.inl ⟨contents, made⟩)
  | clone handle =>
    dsimp only [apply] at member
    split at member <;> exact .inl member
  | rebuild handle =>
    dsimp only [apply] at member
    split at member
    · exact (added member).imp_right fun made => .inr (.inl ⟨_, made⟩)
    · exact .inl member
  | merge handle other =>
    dsimp only [apply] at member
    split at member
    · exact (added member).imp_right fun made => .inr (.inl ⟨_, made⟩)
    · exact .inl member
  | change handle change =>
    dsimp only [apply] at member
    split at member
    · obtain ⟨position, found⟩ := List.mem_iff_getElem?.mp member
      rw [List.getElem?_modify] at found
      obtain ⟨b, before, changed⟩ := Option.map_eq_some_iff.mp found
      -- Only the account that the handle holds is changed; the others stand where they stood.
      split at changed
      · exact .inr (.inr (.inr ⟨b, List.mem_of_getElem? before, change, changed.symm⟩))
      · exact .inl (changed ▸ List.mem_of_getElem? before)
    · exact .inl member

/-- An action keeps the owners listed; a lookup changes nothing. -/
theorem ownersListed_perform (listed : hs.OwnersListed) (action : Action) :
    (hs.perform action).2.OwnersListed := by
  cases action with
  | lookup => exact listed
  | step s =>
    intro a member
    rcases mem_accounts_apply member with old | rfl | ⟨contents, rfl⟩ | ⟨b, old, change, rfl⟩
    · exact listed a old
    · exact fun _ none => absurd none List.not_mem_nil
    · exact Account.ownersListed_ofSnapshot contents
    · exact Account.ownersListed_apply (listed b old) change

theorem ownersListed_after (actions : List Action) : (after actions).OwnersListed := by
  -- The actions go on from any handles that list their owners, not only from none.
  have goOn (hs : Handles) (listed : hs.OwnersListed) :
      (actions.foldl (fun hs action => (hs.perform action).2) hs).OwnersListed := by
    induction actions generalizing hs with
    | nil => exact listed
    | cons action actions ih => exact ih _ (ownersListed_perform listed action)
  exact goOn empty fun _ none => absurd none List.not_mem_nil

/-- **Accounts know the owners of their zones, and copies are faithful.** After any actions, the account
of a handle lists the owner of each of its zones. A handle that is then made of a snapshot of it holds
the same tables and, if nothing is made to fail or delayed, answers every lookup alike under every
context. -/
theorem account_lists_owners_and_copies {actions : List Action}
    (held : (after actions).account? handle = some a) :
    (∀ z ∈ a.state.dnsZones, ∃ i ∈ a.state.dnsInstances, i.crn = z.instanceCrn) ∧
    ∃ copy, ((after actions).apply (.rebuild handle)).account? (after actions).held.length =
        some copy ∧
      copy.state = a.state ∧
      (a.faults = ∅ → a.latency = none → ∀ clock raised limit q,
        copy.lookup clock raised limit q = a.lookup clock raised limit q) := by
  have listed := ownersListed_after actions a (mem_accounts_of_account? held)
  have same : (Account.ofSnapshot a.state).state = a.state :=
    Snapshot.registerZoneOwners_eq_self_iff.mpr listed
  refine ⟨listed, .ofSnapshot a.state, ?_, same, fun sound instant clock raised limit q => ?_⟩
  · simp only [apply, held, account?_add]
  -- Without faults and delays an account is nothing but its tables.
  · have copied : Account.ofSnapshot a.state = a := by
      calc Account.ofSnapshot a.state
        _ = ⟨a.state, ∅, none⟩ := congrArg (Account.mk · ∅ none) same
        _ = a := by rw [← sound, ← instant]
    rw [copied]

/-- Actions through three handles of two accounts, then a merge of both: the first account gets a zone
through the second of its handles, the other one is made of contents that list no owner. -/
def sampleActions : List Action :=
  [.step .fresh, .step (.clone 0),
    .step (.change 1 (.dnsZone ⟨"zone-1", "one.domain", "crn:one", "one"⟩)),
    .step (.ofSnapshot
      { (∅ : Snapshot) with dnsZones := [⟨"zone-2", "two.domain", "crn:two", "two"⟩] }),
    .lookup 0 .exact (fun _ => false) (.ofSeconds 60) (.dnsInstance "crn:one"),
    .step (.merge 0 2), .step (.change 0 (.fault "vpc" "connection lost"))]

/-- The account that the merge makes. -/
def merged : Account where
  state := { (∅ : Snapshot) with
    dnsInstances := [⟨"crn:one", "one"⟩, ⟨"crn:two", "two"⟩]
    dnsZones :=
      [⟨"zone-1", "one.domain", "crn:one", "one"⟩, ⟨"zone-2", "two.domain", "crn:two", "two"⟩] }
  faults := ∅
  latency := none

/-- A copy of the merged account answers as it does. -/
theorem account_lists_owners_and_copies_merged :
    (after sampleActions).account? 3 = some merged ∧
    (∀ z ∈ merged.state.dnsZones, ∃ i ∈ merged.state.dnsInstances, i.crn = z.instanceCrn) ∧
    ∃ copy, ((after sampleActions).apply (.rebuild 3)).account? 4 = some copy ∧
      copy.state = merged.state ∧
      ∀ clock raised limit q,
        copy.lookup clock raised limit q = merged.lookup clock raised limit q := by
  have held : (after sampleActions).account? 3 = some merged := by decide
  obtain ⟨listed, copy, made, same, alike⟩ := account_lists_owners_and_copies held
  exact ⟨held, listed, copy, made, same, alike rfl rfl⟩

end Handles

end InstallCheck.Cloud
