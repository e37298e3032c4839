import InstallCheck.Check.Service
import InstallCheck.Proofs.Inquiry.Dialogue

/-!
When a check has nothing to report, given answers that stay the same: for each check the lookups that
have to succeed and what their answers have to hold.
-/
namespace InstallCheck.Check

open Cloud (Query)
open InstallCheck.Field (Issue Path)

/-- Checks that have nothing to report when lookups are always answered alike. -/
def Inquiry.Clean (answers : (q : Query) → q.Result) (i : Inquiry (List Issue)) : Prop :=
  i.value answers = []

open Inquiry

variable {answers : (q : Query) → q.Result} {path : Path}

@[simp] theorem clean_pure {issues : List Issue} :
    (pure issues : Inquiry (List Issue)).Clean answers ↔ issues = [] := by
  rw [Clean, value_pure]

@[simp] theorem clean_report {e : Logging.Event} {i : Inquiry (List Issue)} :
    (report e >>= fun _ => i).Clean answers ↔ i.Clean answers := by
  rw [Clean, Clean, value_bind]

/-- What is asked first decides how a check goes on. -/
theorem clean_query {q : Query} {next : q.Result → Inquiry (List Issue)} :
    (query q >>= next).Clean answers ↔ (next (answers q)).Clean answers := by
  rw [Clean, Clean, value_query_bind]

@[simp] theorem clean_concat {is : List (Inquiry (List Issue))} :
    (concat is).Clean answers ↔ ∀ i ∈ is, i.Clean answers := by
  simp only [Clean, value_concat, List.flatMap_eq_nil_iff]

/-- A check of what is named, if anything is. -/
theorem clean_ifNamed {identifier : Option String} {check : String → Inquiry (List Issue)}
    {holds : String → Prop} (each : ∀ name, (check name).Clean answers ↔ holds name) :
    (match identifier with
      | some name => check name
      | none => pure []).Clean answers ↔ ∀ name, identifier = some name → holds name := by
  cases identifier <;> simp [each]

/-- A check of what is listed, if anything is. -/
theorem clean_ifListed {items : List String} {check : Inquiry (List Issue)} {holds : Prop}
    (listed : check.Clean answers ↔ holds) :
    (if items.isEmpty then pure [] else check).Clean answers ↔ (items ≠ [] → holds) := by
  cases items <;> simp [listed]

namespace Platform

theorem dnsInstance_clean_iff {domain crn : String} :
    (dnsInstance domain crn path).Clean answers ↔
      (∃ i, answers (.dnsInstance crn) = .ok i) ∧
        ∃ id, answers (.zoneId crn domain) = .ok id ∧ id ≠ "" := by
  rw [dnsInstance, clean_query]
  cases answers (.dnsInstance crn) with
  | error e => cases interrupted : e.isInterrupted <;> simp [interrupted]
  | ok i =>
    rw [clean_query]
    cases answers (.zoneId crn domain) with
    | error e => cases interrupted : e.isInterrupted <;> simp [interrupted]
    | ok id => by_cases absent : id = "" <;> simp [absent]

theorem osImage_clean_iff {name region : String} :
    (osImage name region path).Clean answers ↔ ∃ i, answers (.image name region) = .ok i := by
  rw [osImage, clean_query]
  cases answers (.image name region) with
  | ok i => simp
  | error e => cases e <;> simp [LookupError.isInterrupted, LookupError.isNotFound]

theorem resourceGroup_clean_iff {name : String} :
    (resourceGroup name path).Clean answers ↔
      ∃ groups, answers .resourceGroups = .ok groups ∧ ∃ g ∈ groups, g.answersTo name := by
  rw [resourceGroup, clean_query]
  cases answers .resourceGroups with
  | error e => simp
  | ok groups => simp [apply_ite (Clean answers)]

end Platform

/-- The zones of a region are had exactly when they are looked up with success. -/
theorem value_regionZones {region : String} :
    (regionZones region).value answers =
      (answers (.vpcZones region)).map (·.mergeSort (· ≤ ·)) := by
  rw [regionZones, value_query_bind]
  cases answers (.vpcZones region) <;> rfl

theorem clean_regionZones {region : String}
    {next : Except LookupError (List String) → Inquiry (List Issue)} :
    (regionZones region >>= next).Clean answers ↔
      (next ((answers (.vpcZones region)).map (·.mergeSort (· ≤ ·)))).Clean answers := by
  rw [Clean, Clean, value_bind, value_regionZones]

namespace Network

theorem vpcWithin_clean_iff {scope : Option String} {name : String} :
    (vpcWithin scope name path).Clean answers ↔ ∃ v, answers (.vpc name scope) = .ok v := by
  rw [vpcWithin, clean_report, clean_query]
  cases answers (.vpc name scope) <;> simp

theorem vpc_clean_iff {p : Install.Platform} {name : String} :
    (vpc p name path).Clean answers ↔
      match p.vpcGroupName with
      | none => ∃ v, answers (.vpc name p.groupName) = .ok v
      | some group =>
        ∃ g, answers (.resourceGroup group) = .ok g ∧ ∃ v, answers (.vpc name (some g.id)) = .ok v := by
  unfold vpc
  cases p.vpcGroupName with
  | none => exact vpcWithin_clean_iff
  | some group =>
    dsimp only
    rw [clean_query]
    cases answers (.resourceGroup group) with
    | error e => simp
    | ok g => simp [vpcWithin_clean_iff]

theorem subnet_clean_iff {zones : Option (List String)} {id : String} :
    (subnet zones id path).Clean answers ↔
      ∃ n, answers (.subnet id) = .ok n ∧ ∀ known, zones = some known → n.zone ∈ known := by
  rw [subnet, clean_query]
  cases answers (.subnet id) with
  | error e => simp
  | ok n =>
    cases zones with
    | none => simp
    | some known => simp [apply_ite (Clean answers)]

theorem subnets_clean_iff {region : String} {ids : List String} :
    (subnets region ids path).Clean answers ↔
      ∃ zones, answers (.vpcZones region) = .ok zones ∧
        ∀ id ∈ ids, ∃ n, answers (.subnet id) = .ok n ∧ n.zone ∈ zones := by
  rw [subnets, clean_regionZones]
  cases answers (.vpcZones region) with
  | error e => simp [Except.map, Clean]
  | ok zones => simp [Except.map, subnet_clean_iff]

theorem network_clean_iff {p : Install.Platform} :
    (network p path).Clean answers ↔
      (∀ name, p.vpcName = some name → (vpc p name path).Clean answers) ∧
      (p.subnets ≠ [] → (subnets p.region p.subnets path).Clean answers) := by
  rw [network, clean_concat, List.forall_mem_cons, List.forall_mem_singleton]
  exact and_congr (clean_ifNamed fun _ => Iff.rfl) (clean_ifListed Iff.rfl)

end Network

namespace Machines

theorem instanceType_clean_iff {name : String} :
    (instanceType name path).Clean answers ↔
      ∃ profiles, answers .instanceProfiles = .ok profiles ∧ ∃ m ∈ profiles, m.name = name := by
  rw [instanceType, clean_query]
  cases answers .instanceProfiles with
  | error e => simp
  | ok profiles => simp [apply_ite (Clean answers)]

theorem zones_clean_iff {region : String} {declared : List String} :
    (zones region declared path).Clean answers ↔
      ∃ valid, answers (.vpcZones region) = .ok valid ∧ ∀ zone ∈ declared, zone ∈ valid := by
  rw [zones, clean_regionZones]
  cases answers (.vpcZones region) <;> simp [Except.map]

theorem bootVolumeKey_clean_iff {key : String} :
    (bootVolumeKey key path).Clean answers ↔ ∃ k, answers (.encryptionKey key) = .ok k := by
  rw [bootVolumeKey, clean_query]
  cases answers (.encryptionKey key) <;> simp

theorem pool_clean_iff {region : String} {s : Install.PoolSettings} :
    (pool region s path).Clean answers ↔
      (∀ name, s.typeName = some name →
        ∃ profiles, answers .instanceProfiles = .ok profiles ∧ ∃ m ∈ profiles, m.name = name) ∧
      (s.zones ≠ [] →
        ∃ valid, answers (.vpcZones region) = .ok valid ∧ ∀ zone ∈ s.zones, zone ∈ valid) ∧
      ∀ key, s.keyName = some key → ∃ k, answers (.encryptionKey key) = .ok k := by
  rw [pool, clean_concat, List.forall_mem_cons, List.forall_mem_cons, List.forall_mem_singleton]
  exact and_congr (clean_ifNamed fun _ => instanceType_clean_iff)
    (and_congr (clean_ifListed zones_clean_iff) (clean_ifNamed fun _ => bootVolumeKey_clean_iff))

end Machines

variable {regions : Region.Catalog} {p : Install.Platform} {offered : Install.PoolSettings → Prop}

theorem Platform.platform_clean_iff {domain : String}
    (each : ∀ m path, (Machines.pool p.region m path).Clean answers ↔ offered m) :
    (Platform.platform regions domain p path).Clean answers ↔
      Install.Rules.region regions p.region (path.child "region") = [] ∧
      (dnsInstance domain p.dnsInstanceCrn path).Clean answers ∧
      (osImage p.osImage p.region path).Clean answers ∧
      (∀ name, p.groupName = some name → (resourceGroup name path).Clean answers) ∧
      Install.Rules.network p path = [] ∧
      (Network.network p path).Clean answers ∧
      ∀ m, p.defaultMachines = some m → offered m := by
  rw [platform, clean_concat]
  simp only [List.forall_mem_cons, List.not_mem_nil, false_implies, implies_true, and_true]
  -- The rules need no answers; the other parts are checks whose own conditions are stated above.
  refine and_congr clean_pure (and_congr Iff.rfl (and_congr Iff.rfl (and_congr ?_
    (and_congr clean_pure (and_congr Iff.rfl ?_)))))
  · exact clean_ifNamed fun _ => Iff.rfl
  · cases p.defaultMachines <;> simp [each]

namespace Service

theorem controlPlane_clean_iff {pool : Option Install.MachinePool}
    (each : ∀ m path, (Machines.pool p.region m path).Clean answers ↔ offered m) :
    (controlPlane p.region pool).Clean answers ↔
      ∀ m, pool.bind (·.settings) = some m → offered m := by
  unfold controlPlane
  cases pool.bind (·.settings) <;> simp [each]

theorem compute_clean_iff {pool : Install.MachinePool} {position : Nat}
    (each : ∀ m path, (Machines.pool p.region m path).Clean answers ↔ offered m) :
    (compute p.region pool position).Clean answers ↔ ∀ m, pool.settings = some m → offered m := by
  unfold compute
  cases pool.settings <;> simp [each]

/-- What is checked of an install config, part by part. -/
def parts (regions : Region.Catalog) (c : Install.Config) (p : Install.Platform) :
    List (Inquiry (List Issue)) :=
  Platform.platform regions c.baseDomain p platformPath ::
    controlPlane p.region c.controlPlane ::
    c.compute.mapIdx fun position pool => compute p.region pool position

/-- A check yields what its parts yield, one after the other. -/
theorem value_checks {c : Install.Config} :
    (checks regions c p).value answers = (concat (parts regions c p)).value answers := by
  simp only [checks, parts, value_bind, value_pure]

theorem checks_clean_iff {c : Install.Config}
    (each : ∀ m path, (Machines.pool p.region m path).Clean answers ↔ offered m) :
    (checks regions c p).Clean answers ↔
      (Platform.platform regions c.baseDomain p platformPath).Clean answers ∧
      (∀ m, c.controlPlane.bind (·.settings) = some m → offered m) ∧
      ∀ pool ∈ c.compute, ∀ m, pool.settings = some m → offered m := by
  rw [Clean, value_checks, ← Clean, parts, clean_concat, List.forall_mem_cons, List.forall_mem_cons,
    controlPlane_clean_iff each]
  refine and_congr Iff.rfl (and_congr Iff.rfl ?_)
  -- Where a pool stands does not matter to what it asks for, so positions turn into membership.
  simp only [List.mem_mapIdx]
  constructor
  · intro all pool member
    obtain ⟨position, inside, rfl⟩ := List.mem_iff_getElem.mp member
    exact (compute_clean_iff each).mp (all _ ⟨position, inside, rfl⟩)
  · rintro all _ ⟨position, inside, rfl⟩
    exact (compute_clean_iff each).mpr (all _ (List.getElem_mem inside))

end Service

end InstallCheck.Check
