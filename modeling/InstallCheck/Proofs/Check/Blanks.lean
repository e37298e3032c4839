import InstallCheck.Check.Service
import InstallCheck.Proofs.Inquiry.Silence
import InstallCheck.Proofs.Install.Blanks

/-!
A check treats an empty identifier as an absent one. A section of which nothing is left without its
blanks may be announced in the log, but nothing is looked up for it.
-/
namespace InstallCheck.Check

open Inquiry
open InstallCheck.Field (Issue Path)
open Install (PoolSettings)

namespace Machines

/-- Checks of a group of machines, if it has settings. -/
def poolIfSet (region : String) (settings : Option PoolSettings) (path : Path) :
    Inquiry (List Issue) :=
  match settings with
  | some s => pool region s path
  | none => return []

variable {region : String} {path : Path} {s t : PoolSettings}

/-- Two groups of machines that ask for the same are checked alike. -/
theorem pool_congr (type : s.typeName = t.typeName) (zones : s.zones = t.zones)
    (key : s.keyName = t.keyName) : pool region s path = pool region t path := by
  rw [pool, pool, type, zones, key]

theorem pool_of_nothing (type : s.typeName = none) (zones : s.zones = []) (key : s.keyName = none) :
    pool region s path = pure [] := by
  rw [pool, type, zones, key]
  rfl

theorem poolIfSet_tidy (settings : Option PoolSettings) :
    poolIfSet region (settings.bind PoolSettings.tidy?) path = poolIfSet region settings path := by
  cases settings with
  | none => rfl
  | some s =>
    rw [Option.bind_some]
    rcases s.tidy?_cases with ⟨dropped, type, zones, key⟩ | kept
    · rw [dropped]
      exact (pool_of_nothing type zones key).symm
    · rw [kept]
      exact pool_congr s.typeName_tidy s.zones_tidy s.keyName_tidy

end Machines

open Machines (poolIfSet poolIfSet_tidy)

theorem Network.vpc_tidy (p : Install.Platform) (name : String) (path : Path) :
    Network.vpc p.tidy name path = Network.vpc p name path := by
  unfold Network.vpc
  rw [Install.Platform.vpcGroupName_tidy, Install.Platform.groupName_tidy]

theorem Network.network_tidy (p : Install.Platform) (path : Path) :
    Network.network p.tidy path = Network.network p path := by
  unfold Network.network
  simp only [Install.Platform.vpcName_tidy, Network.vpc_tidy]
  rfl

theorem Platform.silent_platform_tidy (regions : Region.Catalog) (domain : String)
    (p : Install.Platform) (path : Path) :
    (Platform.platform regions domain p.tidy path).silent =
      (Platform.platform regions domain p path).silent := by
  apply silent_concat_congr
  refine .cons rfl (.cons rfl (.cons rfl (.cons ?group (.cons ?rules (.cons ?network
    (.cons ?machines .nil))))))
  case group => rw [Install.Platform.groupName_tidy]
  case rules => rw [Install.Rules.network_tidy]
  case network => rw [Network.network_tidy]
  case machines =>
    -- The default settings are announced even if nothing is left of them, so only the silence is equal.
    have announced (settings : Option PoolSettings) :
        (match settings with
          | some s => report checkingDefault >>= fun _ =>
            Machines.pool p.region s (path.child "defaultMachinePlatform")
          | none => pure []).silent =
        (poolIfSet p.region settings (path.child "defaultMachinePlatform")).silent := by
      cases settings <;> rfl
    calc _ = (poolIfSet p.region (p.defaultMachines.bind PoolSettings.tidy?) _).silent := announced _
      _ = (poolIfSet p.region p.defaultMachines _).silent := by rw [poolIfSet_tidy]
      _ = _ := (announced _).symm

namespace Service

theorem silent_controlPlane (region : String) (pool : Option Install.MachinePool) :
    (controlPlane region pool).silent =
      (poolIfSet region (pool.bind (·.settings)) controlPlanePath).silent := by
  unfold controlPlane
  cases pool.bind (·.settings) <;> rfl

theorem silent_compute (region : String) (pool : Install.MachinePool) (position : Nat) :
    (compute region pool position).silent =
      (poolIfSet region pool.settings (computePath position)).silent := by
  unfold compute
  cases pool.settings <;> rfl

theorem silent_checks_tidy (regions : Region.Catalog) (c : Install.Config) (p : Install.Platform) :
    (checks regions c.tidy p.tidy).silent = (checks regions c p).silent := by
  have controlPlaneTidy : (controlPlane p.region (c.controlPlane.map Install.MachinePool.tidy)).silent =
      (controlPlane p.region c.controlPlane).silent := by
    rw [silent_controlPlane, silent_controlPlane, ← poolIfSet_tidy (c.controlPlane.bind _)]
    cases c.controlPlane <;> rfl
  have computeTidy (pool : Install.MachinePool) (position : Nat) :
      (compute p.region pool.tidy position).silent = (compute p.region pool position).silent := by
    rw [silent_compute, silent_compute, ← poolIfSet_tidy pool.settings]
    rfl
  have parts : (concat (Platform.platform regions c.baseDomain p.tidy platformPath ::
        controlPlane p.region (c.controlPlane.map Install.MachinePool.tidy) ::
        (c.compute.map Install.MachinePool.tidy).mapIdx fun position pool =>
          compute p.region pool position)).silent =
      (concat (Platform.platform regions c.baseDomain p platformPath ::
        controlPlane p.region c.controlPlane ::
        c.compute.mapIdx fun position pool => compute p.region pool position)).silent := by
    apply silent_concat_congr
    -- No compute pool leaves the list, so each is compared with the one at its own position.
    refine .cons (Platform.silent_platform_tidy regions c.baseDomain p platformPath)
      (.cons controlPlaneTidy (List.forall₂_iff_get.mpr ⟨by simp, fun position _ _ => ?_⟩))
    simpa using computeTidy _ position
  unfold checks
  rw [silent_report_bind, silent_report_bind, silent_bind, silent_bind]
  exact congrArg (· >>= _) parts

/-- **An empty identifier means the same as an absent one.** An install config and the one without
blanks have the same lookups, in the same order, and the same result in every run of a check, whatever
the cloud answers and whenever the run is cancelled; the rules report the same of both, and both have
the same metadata. -/
theorem check_tidy (s : Service) (session : Session) (c : Install.Config) :
    (s.check session c.tidy).1 = (s.check session c).1 ∧
      (s.check session c.tidy).2.calls = (s.check session c).2.calls ∧
      (s.check session c.tidy).2.cancelled = (s.check session c).2.cancelled ∧
      (∀ regions path, c.tidy.platform.map (Install.Rules.platform regions · path) =
        c.platform.map (Install.Rules.platform regions · path)) ∧
      Install.Metadata.ofConfig c.tidy = Install.Metadata.ofConfig c := by
  have sameRun : (s.check session c.tidy).1 = (s.check session c).1 ∧
      (s.check session c.tidy).2.silent = (s.check session c).2.silent := by
    cases given : c.platform with
    | none => simp [check, Install.Config.tidy, given]
    | some p =>
      obtain ⟨yields, leaves⟩ :=
        run_congr_silent s.cloud (silent_checks_tidy s.regions c p) session
      simp only [check, Install.Config.tidy, given, Option.map_some] at yields leaves ⊢
      exact ⟨congrArg Except.ok yields, leaves⟩
  obtain ⟨result, state⟩ := sameRun
  obtain ⟨-, flag, calls⟩ := Session.silent_eq_iff.mp state
  refine ⟨result, calls, flag, ?_, Install.Metadata.ofConfig_tidy c⟩
  intro regions path
  rw [Install.Config.tidy, Option.map_map]
  exact congrArg (Option.map · c.platform)
    (funext fun p => Install.Rules.platform_tidy regions p path)

end Service

end InstallCheck.Check
