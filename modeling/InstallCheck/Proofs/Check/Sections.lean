import InstallCheck.Proofs.Check.Isolation

/-!
A group of machines has a section of its own in a report. What stands in it depends on the cloud, the
region and the settings of the group alone; where the group stands in the install config only decides
where the section stands and under which path.
-/
namespace InstallCheck

open InstallCheck.Field (Issue Path Segment)
open Install (PoolSettings MachinePool)

namespace Install

/-- A pool without settings. -/
def MachinePool.bare (pool : MachinePool) : MachinePool := { pool with settings := none }

/-- A platform section without the usual settings of machines. -/
def Platform.withoutMachines (p : Platform) : Platform := { p with defaultMachines := none }

/-- An install config in which no group of machines has settings. -/
def Config.withoutMachines (c : Config) : Config :=
  { c with
    platform := c.platform.map Platform.withoutMachines
    controlPlane := c.controlPlane.map MachinePool.bare
    compute := c.compute.map MachinePool.bare }

end Install

namespace Check

open Cloud (Query)
open Inquiry

/-- What is wrong below some section, wherever the section stands. -/
structure Remark where
  place : List Segment
  kind : Issue.Kind
  value : String
  detail : String
  deriving DecidableEq, Repr

namespace Remark

/-- The issue that a remark on a section at a path is. -/
def under (path : Path) (r : Remark) : Issue :=
  ⟨⟨path.root, path.below ++ r.place⟩, r.kind, r.value, r.detail⟩

/-- The remarks on a section, if there are settings for it. -/
def ofSettings (remarks : PoolSettings → List Remark) (settings : Option PoolSettings) :
    List Remark :=
  settings.elim [] remarks

/-- A list of sections, each with the remarks on a compute pool, whose position is part of its path:
`compute[0].platform.ibmcloud` is the path of the first one. -/
def listing (sections : List (List Remark)) : List Issue :=
  (sections.mapIdx fun position remarks =>
    remarks.map (under ⟨"compute", [.index position, .key "platform", .key "ibmcloud"]⟩)).flatten

end Remark

open Remark (under ofSettings listing)

variable {answers : (q : Query) → q.Result}

/-- A check makes the same remarks wherever the section stands that it is a check of. -/
def Relocatable (answers : (q : Query) → q.Result) (check : Path → Inquiry (List Issue)) : Prop :=
  ∃ remarks : List Remark, ∀ path, (check path).value answers = remarks.map (under path)

theorem relocatable_nothing : Relocatable answers fun _ => pure [] := ⟨[], fun _ => rfl⟩

theorem relocatable_concat (checks : List (Path → Inquiry (List Issue)))
    (each : ∀ check ∈ checks, Relocatable answers check) :
    Relocatable answers fun path => concat (checks.map fun check => check path) := by
  -- The remarks of all checks are those of each in turn, so the list of checks decides.
  induction checks with
  | nil => exact relocatable_nothing
  | cons check checks ih =>
    rw [List.forall_mem_cons] at each
    obtain ⟨first, here⟩ := each.1
    obtain ⟨others, there⟩ := ih each.2
    refine ⟨first ++ others, fun path => ?_⟩
    have rest := there path
    simp only [value_concat] at rest ⊢
    rw [List.map_cons, List.flatMap_cons, here, rest, List.map_append]

/-- The answer to the first lookup decides how a check goes on. -/
theorem relocatable_query {q : Query} {next : Path → q.Result → Inquiry (List Issue)}
    (rest : Relocatable answers fun path => next path (answers q)) :
    Relocatable answers fun path => query q >>= next path := by
  obtain ⟨remarks, found⟩ := rest
  refine ⟨remarks, fun path => ?_⟩
  rw [value_query_bind, found]

theorem relocatable_regionZones {region : String}
    {next : Path → Except LookupError (List String) → Inquiry (List Issue)}
    (rest : Relocatable answers fun path =>
      next path ((answers (.vpcZones region)).map (·.mergeSort (· ≤ ·)))) :
    Relocatable answers fun path => regionZones region >>= next path := by
  obtain ⟨remarks, found⟩ := rest
  refine ⟨remarks, fun path => ?_⟩
  rw [value_bind, value_regionZones, found]

theorem relocatable_ifNamed {identifier : Option String} {check : String → Path → Inquiry (List Issue)}
    (each : ∀ name, Relocatable answers (check name)) :
    Relocatable answers fun path =>
      match identifier with
      | some name => check name path
      | none => pure [] := by
  cases identifier with
  | none => exact relocatable_nothing
  | some name => exact each name

theorem relocatable_ifListed {items : List String} {check : Path → Inquiry (List Issue)}
    (listed : Relocatable answers check) :
    Relocatable answers fun path => if items.isEmpty then pure [] else check path := by
  split
  · exact relocatable_nothing
  · exact listed

namespace Machines

theorem instanceType_relocatable (name : String) : Relocatable answers (instanceType name) := by
  apply relocatable_query
  cases answers .instanceProfiles with
  | error e => exact ⟨[⟨[.key "type"], .internalError, "", e.text⟩], fun _ => rfl⟩
  | ok profiles =>
    dsimp only
    split
    · exact relocatable_nothing
    · exact ⟨[⟨[.key "type"], .notFound, name, ""⟩], fun _ => rfl⟩

theorem zones_relocatable (region : String) (declared : List String) :
    Relocatable answers (zones region declared) := by
  apply relocatable_regionZones
  cases answers (.vpcZones region) with
  | error e => exact ⟨[⟨[.key "zones"], .internalError, "", e.text⟩], fun _ => rfl⟩
  | ok listed =>
    let valid := listed.mergeSort (· ≤ ·)
    refine ⟨(declared.filter (!valid.contains ·)).map fun zone =>
      ⟨[.key "zones"], .invalid, zone, "zone is not in expected zones: " ++ zoneList valid⟩, ?_⟩
    intro path
    rw [List.map_map]
    rfl

theorem bootVolumeKey_relocatable (key : String) : Relocatable answers (bootVolumeKey key) := by
  -- The key stands two steps below the section.
  let place : List Segment := [.key "bootVolume", .key "encryptionKey"]
  have below (path : Path) : (path.child "bootVolume").child "encryptionKey" =
      ⟨path.root, path.below ++ place⟩ := by
    simp [Path.child, place]
  apply relocatable_query
  cases answers (.encryptionKey key) with
  | ok found => exact relocatable_nothing
  | error e =>
    simp only [below, lookupIssue]
    split
    · exact ⟨[⟨place, .notFound, key, ""⟩], fun _ => rfl⟩
    · exact ⟨[⟨place, .internalError, "", e.text⟩], fun _ => rfl⟩

/-- A group of machines is checked alike wherever it stands. -/
theorem pool_relocatable (region : String) (s : PoolSettings) :
    Relocatable answers (pool region s) := by
  apply relocatable_concat
    [fun path => match s.typeName with
      | some name => instanceType name path
      | none => return [],
    fun path => if s.zones.isEmpty then return [] else zones region s.zones path,
    fun path => match s.keyName with
      | some key => bootVolumeKey key path
      | none => return []]
  rw [List.forall_mem_cons, List.forall_mem_cons, List.forall_mem_singleton]
  exact ⟨relocatable_ifNamed instanceType_relocatable,
    relocatable_ifListed (zones_relocatable region s.zones),
    relocatable_ifNamed bootVolumeKey_relocatable⟩

end Machines

section Sections

variable {remarks : PoolSettings → List Remark} {region : String}
  (found : ∀ s path, (Machines.pool region s path).value answers = (remarks s).map (under path))

include found

theorem Machines.value_ifSet (settings : Option PoolSettings) (event : Logging.Event) (path : Path) :
    (match settings with
      | some s => report event >>= fun _ => Machines.pool region s path
      | none => pure []).value answers = (ofSettings remarks settings).map (under path) := by
  cases settings with
  | none => rfl
  | some s => exact found s path

/-- The usual settings of machines come last in the checks of a platform section. -/
theorem Platform.value_platform (regions : Region.Catalog) (domain : String) {p : Install.Platform}
    (here : p.region = region) (path : Path) :
    (Platform.platform regions domain p path).value answers =
      (Platform.platform regions domain p.withoutMachines path).value answers ++
        (ofSettings remarks p.defaultMachines).map (under (path.child "defaultMachinePlatform")) := by
  -- Nothing but the last check looks at the usual settings; without them it finds nothing.
  subst here
  rw [← Machines.value_ifSet found p.defaultMachines checkingDefault, platform, platform]
  simp only [value_concat, List.flatMap_cons, List.flatMap_nil, List.append_nil, List.append_assoc]
  rfl

namespace Service

theorem value_controlPlane (pool : Option MachinePool) :
    (controlPlane region pool).value answers =
      (ofSettings remarks (pool.bind (·.settings))).map
        (under ⟨"controlPlane", [.key "platform", .key "ibmcloud"]⟩) := by
  unfold controlPlane
  cases pool.bind (·.settings) with
  | none => rfl
  | some s => exact found s controlPlanePath

theorem value_compute (pool : MachinePool) (position : Nat) :
    (compute region pool position).value answers =
      (ofSettings remarks pool.settings).map
        (under ⟨"compute", [.index position, .key "platform", .key "ibmcloud"]⟩) := by
  unfold compute
  cases pool.settings with
  | none => rfl
  | some s => exact found s (computePath position)

/-- A pool without settings has a position but no remarks. -/
theorem value_computes (pools : List MachinePool) :
    (pools.mapIdx fun position pool => compute region pool position).flatMap (·.value answers) =
      listing (pools.map fun pool => ofSettings remarks pool.settings) := by
  -- The lists are compared position by position, since a position is part of the path.
  rw [listing, List.flatMap_def]
  refine congrArg List.flatten (List.ext_getElem (by simp) fun position _ _ => ?_)
  simpa using value_compute found _ position

theorem value_checks_sections (regions : Region.Catalog) (c : Install.Config) {p : Install.Platform}
    (here : p.region = region) :
    (checks regions c p).value answers =
      (Platform.platform regions c.baseDomain p.withoutMachines platformPath).value answers ++
        (ofSettings remarks p.defaultMachines).map
          (under ⟨"platform", [.key "ibmcloud", .key "defaultMachinePlatform"]⟩) ++
        (ofSettings remarks (c.controlPlane.bind (·.settings))).map
          (under ⟨"controlPlane", [.key "platform", .key "ibmcloud"]⟩) ++
        listing (c.compute.map fun pool => ofSettings remarks pool.settings) := by
  rw [value_checks, parts, value_concat, List.flatMap_cons, List.flatMap_cons,
    Platform.value_platform found regions c.baseDomain here, here, value_controlPlane found,
    value_computes found]
  simp only [List.append_assoc]
  rfl

end Service

end Sections

namespace Service

/-- Where no group of machines has settings, the platform section is all there is to check. -/
theorem value_checks_withoutMachines (regions : Region.Catalog) (c : Install.Config)
    (p : Install.Platform) :
    (checks regions c.withoutMachines p.withoutMachines).value answers =
      (Platform.platform regions c.baseDomain p.withoutMachines platformPath).value answers := by
  have bareControlPlane : (controlPlane p.region c.withoutMachines.controlPlane).value answers = [] := by
    rw [Install.Config.withoutMachines]
    cases c.controlPlane <;> rfl
  have bareComputes : (c.withoutMachines.compute.mapIdx fun position pool =>
      compute p.region pool position).flatMap (·.value answers) = [] := by
    apply List.flatMap_eq_nil_iff.mpr
    intro i member
    obtain ⟨position, listed, rfl⟩ := List.mem_mapIdx.mp member
    simp [Install.Config.withoutMachines, MachinePool.bare, compute]
  rw [value_checks, parts, value_concat, List.flatMap_cons, List.flatMap_cons]
  change _ ++ ((controlPlane p.region _).value answers ++
    (List.mapIdx (fun position pool => compute p.region pool position) _).flatMap _) = _
  rw [bareControlPlane, bareComputes, List.append_nil, List.append_nil]
  rfl

/-- **Groups of machines have sections of their own in a report.** Against a cloud that always answers a
lookup alike there are remarks on each group, which depend on the region and its settings alone. The
undisturbed report on an install config is the one without settings for any machines, then the remarks
on the usual settings, on the control plane and on each compute pool in turn, each under its own path. In
another order of the compute pools their remarks come in that order, and nothing but the positions in
their paths is different. -/
theorem check_has_sections (answers : (q : Query) → q.Result) :
    ∃ remarks : String → PoolSettings → List Remark,
      ∀ (s : Service) (limit : Duration) (c : Install.Config) (p : Install.Platform),
        (∀ earlier q, (s.cloud limit earlier q).result = answers q) → c.platform = some p →
        (s.check (.start limit false) c).2.Undisturbed s.cloud →
        (s.check (.start limit false) c.withoutMachines).2.Undisturbed s.cloud →
        let sections (pools : List MachinePool) : List (List Remark) :=
          pools.map fun pool => ofSettings (remarks p.region) pool.settings
        ∃ bare others,
          (s.check (.start limit false) c.withoutMachines).1 = .ok bare ∧
          others = bare ++
            (ofSettings (remarks p.region) p.defaultMachines).map
              (under ⟨"platform", [.key "ibmcloud", .key "defaultMachinePlatform"]⟩) ++
            (ofSettings (remarks p.region) (c.controlPlane.bind (·.settings))).map
              (under ⟨"controlPlane", [.key "platform", .key "ibmcloud"]⟩) ∧
          (s.check (.start limit false) c).1 = .ok (others ++ listing (sections c.compute)) ∧
          ∀ pools : List MachinePool, pools.Perm c.compute →
            (s.check (.start limit false) { c with compute := pools }).2.Undisturbed s.cloud →
            (sections pools).Perm (sections c.compute) ∧
            (s.check (.start limit false) { c with compute := pools }).1 =
              .ok (others ++ listing (sections pools)) := by
  -- The remarks are chosen before the config, so they cannot depend on it.
  have relocatable (region : String) (s : PoolSettings) :
      Relocatable answers (Machines.pool region s) := Machines.pool_relocatable region s
  choose remarks found using relocatable
  refine ⟨remarks, fun s limit c p answered given calm bareCalm => ?_⟩
  have bareGiven : c.withoutMachines.platform = some p.withoutMachines := by
    rw [Install.Config.withoutMachines, given, Option.map_some]
  have report {d : Install.Config} (dGiven : d.platform = some p)
      (dCalm : (s.check (.start limit false) d).2.Undisturbed s.cloud) :
      (s.check (.start limit false) d).1 = .ok ((checks s.regions d p).value answers) := by
    rw [check_of_platform dGiven] at dCalm ⊢
    rw [run_eq_value _ answered rfl dCalm]
  refine ⟨(Platform.platform s.regions c.baseDomain p.withoutMachines platformPath).value answers, _,
    ?_, rfl, ?_, fun pools reordered poolsCalm => ⟨reordered.map _, ?_⟩⟩
  · rw [check_of_platform bareGiven] at bareCalm ⊢
    rw [run_eq_value _ answered rfl bareCalm, value_checks_withoutMachines]
  · rw [report given calm, value_checks_sections (found p.region) s.regions c rfl]
  · rw [report (d := { c with compute := pools }) given poolsCalm,
      value_checks_sections (found p.region) s.regions _ rfl]

/-- The check of the sample config with its compute pools in the other order. -/
def turnedCheck (answers : (q : Query) → q.Result) : Except CheckError (List Issue) × Session :=
  (Service.mk (constantly answers) .builtIn (.ofSeconds 60)).check (.start (.ofSeconds 60) false)
    { Sample.config with compute := Sample.config.compute.reverse }

/-- Where no zones can be listed there is a remark on the zones of each group of machines; it moves with
its compute pool. -/
theorem check_has_sections_turned :
    (sampleCheck zoneless).1.toOption.map (List.map (·.path.text)) =
      some ["platform.ibmcloud.subnets", "platform.ibmcloud.defaultMachinePlatform.zones",
        "controlPlane.platform.ibmcloud.zones", "compute[1].platform.ibmcloud.zones"] ∧
    (turnedCheck zoneless).1.toOption.map (List.map (·.path.text)) =
      some ["platform.ibmcloud.subnets", "platform.ibmcloud.defaultMachinePlatform.zones",
        "controlPlane.platform.ibmcloud.zones", "compute[0].platform.ibmcloud.zones"] ∧
    ∃ others sections turnedSections,
      (sampleCheck zoneless).1 = .ok (others ++ listing sections) ∧
      (turnedCheck zoneless).1 = .ok (others ++ listing turnedSections) ∧
      turnedSections.Perm sections := by
  refine ⟨by decide +kernel, by decide +kernel, ?_⟩
  obtain ⟨remarks, placed⟩ := check_has_sections zoneless
  obtain ⟨bare, others, -, -, report, reordered⟩ :=
    placed (Service.mk (constantly zoneless) .builtIn (.ofSeconds 60)) (.ofSeconds 60) Sample.config
      Sample.platform (fun _ _ => rfl) rfl undisturbed_constantly undisturbed_constantly
  obtain ⟨turned, turnedReport⟩ :=
    reordered Sample.config.compute.reverse (List.reverse_perm _) undisturbed_constantly
  exact ⟨others, _, _, report, turnedReport, turned⟩

end Service

end Check

end InstallCheck
