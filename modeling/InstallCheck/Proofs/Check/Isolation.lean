import InstallCheck.Proofs.Check.Accounting
import InstallCheck.Proofs.Check.Verdict

/-!
Checks are isolated from each other. Each operation of the cloud is reported on at places of its own,
and what it answers, or that it fails, neither adds nor hides an issue anywhere else.
-/
namespace InstallCheck.Check

open Cloud (Query)
open Inquiry
open InstallCheck.Field (Issue Path)

namespace Service

/-- Where the groups of machines of an install config stand. -/
def poolPaths (c : Install.Config) : List Path :=
  platformPath.child "defaultMachinePlatform" :: controlPlanePath ::
    (List.range c.compute.length).map computePath

/-- The places that belong to an operation: what it answers may show in a report only there. -/
def ownedPlaces (c : Install.Config) : String → List Path
  | "cis_instance" | "zone_id_by_name" => [platformPath.child "cisInstanceCRN"]
  | "custom_image_by_name" => [platformPath.child "clusterOSImage"]
  | "resource_groups" => [platformPath.child "resourceGroup"]
  | "resource_group" => [platformPath.child "vpcResourceGroup", platformPath.child "vpc"]
  | "vpc" => [platformPath.child "vpc"]
  | "vpc_zones" => platformPath.child "subnets" :: (poolPaths c).map (·.child "zones")
  | "subnet" => [platformPath.child "subnets"]
  | "instance_profiles" => (poolPaths c).map (·.child "type")
  | "encryption_key" => (poolPaths c).map fun path => (path.child "bootVolume").child "encryptionKey"
  | _ => []

end Service

open Service (platformPath controlPlanePath computePath poolPaths ownedPlaces)

/-- Answers that differ in one operation at most. -/
def AgreeBut (operation : String) (answers others : (q : Query) → q.Result) : Prop :=
  ∀ q, q.operation ≠ operation → answers q = others q

/-- An inquiry yields the same issues in the same order under different answers, but for those at some
places. -/
def SameOutside (places : List Path) (answers others : (q : Query) → q.Result)
    (i : Inquiry (List Issue)) : Prop :=
  (i.value answers).filter (·.path ∉ places) = (i.value others).filter (·.path ∉ places)

section Outside

variable {places : List Path} {answers others : (q : Query) → q.Result} {i : Inquiry (List Issue)}
  {kind : List Finding → Prop}

theorem sameOutside_of_eq (same : i.value answers = i.value others) :
    SameOutside places answers others i := by
  rw [SameOutside, same]

theorem sameOutside_concat {is : List (Inquiry (List Issue))}
    (each : ∀ i ∈ is, SameOutside places answers others i) :
    SameOutside places answers others (concat is) := by
  induction is with
  | nil => rfl
  | cons i is ih =>
    rw [List.forall_mem_cons] at each
    have rest := ih each.2
    simp only [SameOutside, value_concat, List.flatMap_cons, List.filter_append] at rest ⊢
    rw [each.1, rest]

/-- An inquiry all of whose findings are at the places yields nothing elsewhere. -/
theorem sameOutside_of_places (yields : i.Yields kind)
    (within : ∀ fs, kind fs → ∀ f ∈ fs, f.place ∈ places) : SameOutside places answers others i := by
  have nothing (answers : (q : Query) → q.Result) :
      (i.value answers).filter (·.path ∉ places) = [] := by
    apply List.filter_eq_nil_iff.mpr
    intro issue member
    obtain ⟨fs, isKind, f, among, there⟩ := yields.exists_finding (finds_of_mem_value member)
    simpa [there] using within fs isKind f among
  rw [SameOutside, nothing, nothing]

end Outside

variable {c : Install.Config} {operation : String} {answers others : (q : Query) → q.Result}
  {i : Inquiry (List Issue)} {kind : List Finding → Prop}

/-- An inquiry is isolated if all its findings are at one place that belongs to each of its lookups. -/
theorem sameOutside_of_place (place : Path) (agree : AgreeBut operation answers others)
    (yields : i.Yields kind)
    (owned : ∀ fs, kind fs → ∀ f ∈ fs,
      f.place = place ∧ place ∈ ownedPlaces c f.subject.query.operation) :
    SameOutside (ownedPlaces c operation) answers others i := by
  by_cases belongs : place ∈ ownedPlaces c operation
  · apply sameOutside_of_places yields
    intro fs isKind f among
    rwa [(owned fs isKind f among).1]
  -- The place would belong to the operation if one of the lookups were of it.
  · apply sameOutside_of_eq
    apply yields.value_congr
    intro fs isKind f among
    apply agree
    rintro rfl
    exact belongs (owned fs isKind f among).2

theorem sameOutside_single {place : Path} {s : Subject} (agree : AgreeBut operation answers others)
    (yields : i.Yields (Survey.Single place s)) (owned : place ∈ ownedPlaces c s.query.operation) :
    SameOutside (ownedPlaces c operation) answers others i := by
  apply sameOutside_of_place place agree yields
  rintro _ ⟨r, rfl⟩
  exact List.forall_mem_singleton.mpr ⟨rfl, owned⟩

/-- What is checked only if it is named. -/
theorem sameOutside_ifNamed {places : List Path} {identifier : Option String}
    {check : String → Inquiry (List Issue)}
    (each : ∀ name, SameOutside places answers others (check name)) :
    SameOutside places answers others
      (match identifier with
      | some name => check name
      | none => pure []) := by
  cases identifier with
  | none => rfl
  | some name => exact each name

/-- What is checked only if it is listed. -/
theorem sameOutside_ifListed {places : List Path} {items : List String} {check : Inquiry (List Issue)}
    (listed : SameOutside places answers others check) :
    SameOutside places answers others (if items.isEmpty then pure [] else check) := by
  split
  · rfl
  · exact listed

section Isolated

variable (agree : AgreeBut operation answers others)

include agree

theorem Platform.dnsInstance_isolated (domain crn : String) :
    SameOutside (ownedPlaces c operation) answers others
      (Platform.dnsInstance domain crn platformPath) := by
  apply sameOutside_of_place (platformPath.child "cisInstanceCRN") agree
    (Platform.dnsInstance_yields domain crn platformPath)
  rintro _ (e | ⟨found, zone⟩) <;> simp [Query.operation, ownedPlaces]

theorem Platform.osImage_isolated (image region : String) :
    SameOutside (ownedPlaces c operation) answers others
      (Platform.osImage image region platformPath) :=
  sameOutside_single agree (Platform.osImage_yields image region platformPath)
    (List.mem_singleton.mpr rfl)

theorem Platform.resourceGroup_isolated (name : String) :
    SameOutside (ownedPlaces c operation) answers others
      (Platform.resourceGroup name platformPath) :=
  sameOutside_single agree (Platform.resourceGroup_yields name platformPath)
    (List.mem_singleton.mpr rfl)

theorem Network.vpcWithin_isolated (scope : Option String) (name : String) :
    SameOutside (ownedPlaces c operation) answers others
      (Network.vpcWithin scope name platformPath) :=
  sameOutside_single agree (Network.vpcWithin_yields scope name platformPath)
    (List.mem_singleton.mpr rfl)

theorem Network.vpc_isolated (p : Install.Platform) (name : String) :
    SameOutside (ownedPlaces c operation) answers others (Network.vpc p name platformPath) := by
  by_cases asked : operation = "resource_group"
  · -- The group that is found becomes the scope of the next lookup, so the private cloud is owned too.
    subst asked
    apply sameOutside_of_places (Network.vpc_yields p name platformPath)
    rintro _ (⟨r, _⟩ | ⟨e, _⟩ | ⟨found, r, _⟩) <;> simp [ownedPlaces]
  · -- Otherwise both runs find the same group, or fail to alike, and the scope is the same.
    unfold Network.vpc
    cases p.vpcGroupName with
    | none => exact Network.vpcWithin_isolated agree _ name
    | some group =>
      have sameGroup : answers (.resourceGroup group) = others (.resourceGroup group) :=
        agree _ (Ne.symm asked)
      dsimp only [SameOutside]
      rw [value_query_bind, value_query_bind, sameGroup]
      cases others (.resourceGroup group) with
      | error e => rfl
      | ok found => exact Network.vpcWithin_isolated agree _ name

theorem Network.subnets_isolated (region : String) (ids : List String) :
    SameOutside (ownedPlaces c operation) answers others
      (Network.subnets region ids platformPath) := by
  apply sameOutside_of_place (platformPath.child "subnets") agree
    (Network.subnets_yields region ids platformPath)
  rintro _ ⟨zones, inOrder⟩
  rw [List.forall_mem_cons]
  refine ⟨⟨rfl, List.mem_cons_self⟩, inOrder.all ?_⟩
  rw [List.forall_mem_map]
  rintro id - _ ⟨r, rfl⟩
  exact List.forall_mem_singleton.mpr ⟨rfl, List.mem_singleton.mpr rfl⟩

theorem Machines.pool_isolated {path : Path} (stands : path ∈ poolPaths c) (region : String)
    (s : Install.PoolSettings) :
    SameOutside (ownedPlaces c operation) answers others (Machines.pool region s path) := by
  apply sameOutside_concat
  rw [List.forall_mem_cons, List.forall_mem_cons, List.forall_mem_singleton]
  refine ⟨sameOutside_ifNamed fun name => ?_, sameOutside_ifListed ?_,
    sameOutside_ifNamed fun key => ?_⟩
  · exact sameOutside_single agree (Machines.instanceType_yields name path)
      (List.mem_map_of_mem stands)
  · exact sameOutside_single agree (Machines.zones_yields region s.zones path)
      (List.mem_cons_of_mem _ (List.mem_map_of_mem stands))
  · exact sameOutside_single agree (Machines.bootVolumeKey_yields key path)
      (List.mem_map_of_mem stands)

theorem Machines.ifSet_isolated {path : Path} (stands : path ∈ poolPaths c) (region : String)
    (settings : Option Install.PoolSettings) (event : Logging.Event) :
    SameOutside (ownedPlaces c operation) answers others
      (match settings with
      | some s => report event >>= fun _ => Machines.pool region s path
      | none => pure []) := by
  cases settings with
  | none => rfl
  | some s => exact Machines.pool_isolated agree stands region s

theorem Network.network_isolated (p : Install.Platform) :
    SameOutside (ownedPlaces c operation) answers others (Network.network p platformPath) := by
  apply sameOutside_concat
  rw [List.forall_mem_cons, List.forall_mem_singleton]
  exact ⟨sameOutside_ifNamed fun name => Network.vpc_isolated agree p name,
    sameOutside_ifListed (Network.subnets_isolated agree p.region p.subnets)⟩

theorem Platform.platform_isolated (regions : Region.Catalog) (domain : String)
    (p : Install.Platform) :
    SameOutside (ownedPlaces c operation) answers others
      (Platform.platform regions domain p platformPath) := by
  apply sameOutside_concat
  rw [List.forall_mem_cons, List.forall_mem_cons, List.forall_mem_cons, List.forall_mem_cons,
    List.forall_mem_cons, List.forall_mem_cons, List.forall_mem_singleton]
  exact ⟨rfl, dnsInstance_isolated agree domain p.dnsInstanceCrn,
    osImage_isolated agree p.osImage p.region,
    sameOutside_ifNamed fun name => resourceGroup_isolated agree name, rfl,
    Network.network_isolated agree p,
    Machines.ifSet_isolated agree List.mem_cons_self p.region p.defaultMachines checkingDefault⟩

namespace Service

theorem controlPlane_isolated (region : String) (pool : Option Install.MachinePool) :
    SameOutside (ownedPlaces c operation) answers others (controlPlane region pool) := by
  unfold controlPlane
  cases pool.bind (·.settings) with
  | none => rfl
  | some settings =>
    exact Machines.pool_isolated agree (List.mem_cons_of_mem _ List.mem_cons_self) region settings

theorem compute_isolated (region : String) (pool : Install.MachinePool) {position : Nat}
    (listed : position < c.compute.length) :
    SameOutside (ownedPlaces c operation) answers others (compute region pool position) := by
  have stands : computePath position ∈ poolPaths c :=
    List.mem_cons_of_mem _ (List.mem_cons_of_mem _
      (List.mem_map_of_mem (List.mem_range.mpr listed)))
  unfold compute
  cases pool.settings with
  | none => rfl
  | some settings => exact Machines.pool_isolated agree stands region settings

theorem checks_isolated (regions : Region.Catalog) (p : Install.Platform) :
    SameOutside (ownedPlaces c operation) answers others (checks regions c p) := by
  rw [SameOutside, value_checks, value_checks, ← SameOutside]
  apply sameOutside_concat
  rw [parts, List.forall_mem_cons, List.forall_mem_cons]
  refine ⟨Platform.platform_isolated agree regions c.baseDomain p,
    controlPlane_isolated agree p.region c.controlPlane, fun i member => ?_⟩
  obtain ⟨position, listed, rfl⟩ := List.mem_mapIdx.mp member
  exact compute_isolated agree p.region c.compute[position] listed

end Service

end Isolated

namespace Service

variable {s t : Service} {p : Install.Platform} {limit : Duration}

/-- **Checks are isolated from each other.** If two clouds answer every lookup alike but for those of
one operation, the undisturbed reports on an install config have the same issues in the same order,
except at the places that belong to the operation. -/
theorem check_isolated (sameRegions : s.regions = t.regions) (given : c.platform = some p)
    (answered : ∀ earlier q, (s.cloud limit earlier q).result = answers q)
    (answeredToo : ∀ earlier q, (t.cloud limit earlier q).result = others q)
    (agree : AgreeBut operation answers others)
    (calm : (s.check (.start limit false) c).2.Undisturbed s.cloud)
    (calmToo : (t.check (.start limit false) c).2.Undisturbed t.cloud) :
    ∃ report reportToo,
      (s.check (.start limit false) c).1 = .ok report ∧
      (t.check (.start limit false) c).1 = .ok reportToo ∧
      report.filter (·.path ∉ ownedPlaces c operation) =
        reportToo.filter (·.path ∉ ownedPlaces c operation) := by
  rw [check_of_platform given] at calm calmToo ⊢
  rw [check_of_platform given]
  refine ⟨_, _, rfl, rfl, ?_⟩
  -- Each report is what the checks yield under the answers of its own cloud.
  rw [run_eq_value _ answered rfl calm, run_eq_value _ answeredToo rfl calmToo, sameRegions]
  exact checks_isolated agree t.regions p

/-- A cloud that always has the same answers, at once. -/
def constantly (answers : (q : Query) → q.Result) : Cloud := fun _ _ q => ⟨answers q, ⟨0⟩, false⟩

theorem undisturbed_constantly {session : Session} : session.Undisturbed (constantly answers) :=
  Session.undisturbed_of_timely fun _ _ => ⟨rfl, Nat.zero_le _⟩

/-- Answers with which one operation fails. -/
def failingAt (operation : String) (answers : (q : Query) → q.Result) (q : Query) : q.Result :=
  if q.operation = operation then .error (.transport operation "connection lost") else answers q

theorem agreeBut_failingAt : AgreeBut operation answers (failingAt operation answers) :=
  fun _ other => (if_neg other).symm

/-- The answers of the sample account, of which no zones can be listed. -/
def zoneless : (q : Query) → q.Result :=
  failingAt "vpc_zones" Sample.snapshot.registerZoneOwners.answer

/-- The check of the sample config with given answers. -/
def sampleCheck (answers : (q : Query) → q.Result) : Except CheckError (List Issue) × Session :=
  (Service.mk (constantly answers) .builtIn (.ofSeconds 60)).check (.start (.ofSeconds 60) false)
    Sample.config

/-- Where no zones can be listed, a failed search for images puts one more issue before the four that
there are, and leaves those as they were. -/
theorem check_isolated_failingAt_image :
    (sampleCheck zoneless).1.toOption.map List.length = some 4 ∧
    (sampleCheck (failingAt "custom_image_by_name" zoneless)).1.toOption.map List.length = some 5 ∧
    ∃ report reportToo,
      (sampleCheck zoneless).1 = .ok report ∧
      (sampleCheck (failingAt "custom_image_by_name" zoneless)).1 = .ok reportToo ∧
      report.filter (·.path ∉ ownedPlaces Sample.config "custom_image_by_name") =
        reportToo.filter (·.path ∉ ownedPlaces Sample.config "custom_image_by_name") :=
  ⟨by decide +kernel, by decide +kernel,
    check_isolated (p := Sample.platform) rfl rfl (fun _ _ => rfl) (fun _ _ => rfl)
      agreeBut_failingAt undisturbed_constantly undisturbed_constantly⟩

end Service

end InstallCheck.Check
