import InstallCheck.Install.Metadata
import InstallCheck.Proofs.Install.Rules

/-!
Install configs without blanks. An empty identifier counts as an absent one, and a section that names
nothing as one that is not there, so leaving both out changes neither what a config asks for nor what
its rules report.
-/
namespace InstallCheck.Install

/-- An identifier, unless it is empty. -/
def dropEmpty (identifier : Option String) : Option String :=
  if identifier = some "" then none else identifier

/-- A boot volume, unless it has no encryption key. -/
def BootVolume.tidy? (v : BootVolume) : Option BootVolume :=
  (dropEmpty v.encryptionKey).map fun key => ⟨some key⟩

/-- The settings of a group of machines without blanks. -/
def PoolSettings.tidy (s : PoolSettings) : PoolSettings :=
  ⟨dropEmpty s.instanceType, s.zones, s.bootVolume.bind BootVolume.tidy?⟩

/-- The settings of a group of machines without blanks, unless nothing is left of them. -/
def PoolSettings.tidy? (s : PoolSettings) : Option PoolSettings :=
  if s.tidy = ⟨none, [], none⟩ then none else some s.tidy

def MachinePool.tidy (m : MachinePool) : MachinePool :=
  { m with settings := m.settings.bind PoolSettings.tidy? }

def Platform.tidy (p : Platform) : Platform :=
  { p with
    resourceGroup := dropEmpty p.resourceGroup
    vpc := dropEmpty p.vpc
    vpcResourceGroup := dropEmpty p.vpcResourceGroup
    defaultMachines := p.defaultMachines.bind PoolSettings.tidy? }

/-- An install config without blanks; compute pools keep their places. -/
def Config.tidy (c : Config) : Config :=
  { c with
    platform := c.platform.map Platform.tidy
    controlPlane := c.controlPlane.map MachinePool.tidy
    compute := c.compute.map MachinePool.tidy }

theorem dropEmpty_eq_nonEmpty (identifier : Option String) :
    dropEmpty identifier = nonEmpty identifier := by
  unfold dropEmpty nonEmpty
  cases identifier with
  | none => rfl
  | some name => by_cases blank : name = "" <;> simp [Option.filter, blank]

@[simp] theorem nonEmpty_dropEmpty (identifier : Option String) :
    nonEmpty (dropEmpty identifier) = nonEmpty identifier := by
  rw [dropEmpty_eq_nonEmpty]
  unfold nonEmpty
  rw [Option.filter_filter]
  simp only [Bool.and_self]

namespace PoolSettings

@[simp] theorem typeName_tidy (s : PoolSettings) : s.tidy.typeName = s.typeName :=
  nonEmpty_dropEmpty s.instanceType

@[simp] theorem zones_tidy (s : PoolSettings) : s.tidy.zones = s.zones := rfl

@[simp] theorem keyName_tidy (s : PoolSettings) : s.tidy.keyName = s.keyName := by
  obtain ⟨_, _, volume⟩ := s
  cases volume with
  | none => rfl
  -- The volume goes with its key, so the key is read off what is left of the two.
  | some v =>
    simp only [tidy, keyName, BootVolume.tidy?, Option.bind_some]
    rw [← nonEmpty_dropEmpty v.encryptionKey]
    cases dropEmpty v.encryptionKey <;> rfl

/-- Settings of which nothing is left ask for nothing; of all others everything they ask for stays. -/
theorem tidy?_cases (s : PoolSettings) :
    s.tidy? = none ∧ s.typeName = none ∧ s.zones = [] ∧ s.keyName = none ∨ s.tidy? = some s.tidy := by
  unfold tidy?
  split
  · rename_i nothing
    rw [← typeName_tidy, ← keyName_tidy, ← zones_tidy, nothing]
    exact .inl ⟨rfl, rfl, rfl, rfl⟩
  · exact .inr rfl

example : tidy? ⟨some "", [], some ⟨some ""⟩⟩ = none := rfl

end PoolSettings

namespace Platform

@[simp] theorem groupName_tidy (p : Platform) : p.tidy.groupName = p.groupName :=
  nonEmpty_dropEmpty p.resourceGroup

@[simp] theorem vpcName_tidy (p : Platform) : p.tidy.vpcName = p.vpcName :=
  nonEmpty_dropEmpty p.vpc

@[simp] theorem vpcGroupName_tidy (p : Platform) : p.tidy.vpcGroupName = p.vpcGroupName :=
  nonEmpty_dropEmpty p.vpcResourceGroup

@[simp] theorem hasNetwork_tidy (p : Platform) : p.tidy.hasNetwork = p.hasNetwork := by
  unfold hasNetwork
  rw [vpcName_tidy]
  rfl

end Platform

theorem Rules.network_tidy (p : Platform) (path : Field.Path) :
    Rules.network p.tidy path = Rules.network p path := by
  unfold Rules.network
  rw [Platform.hasNetwork_tidy, Platform.vpcName_tidy]
  rfl

/-- The rules report the same of a platform section without blanks. -/
theorem Rules.platform_tidy (regions : Region.Catalog) (p : Platform) (path : Field.Path) :
    Rules.platform regions p.tidy path = Rules.platform regions p path := by
  unfold Rules.platform
  rw [Rules.network_tidy]
  rfl

theorem Metadata.ofConfig_tidy (c : Config) : Metadata.ofConfig c.tidy = Metadata.ofConfig c := by
  unfold Metadata.ofConfig Config.tidy
  rw [Option.map_map]
  refine congrArg (Option.map · c.platform) (funext fun p => ?_)
  rw [Function.comp_apply, Platform.groupName_tidy]
  rfl

end InstallCheck.Install
