import InstallCheck.Cloud.Snapshot
import InstallCheck.Install.Metadata
import InstallCheck.Proofs.Document.Writing

/-!
Install configs, cluster metadata and snapshots of cloud accounts come back from their documents. What is
absent is left out of these.
-/
namespace InstallCheck

open Document

variable (kept : String → Prop)

namespace Install

theorem BootVolume.survives : Survives kept BootVolume.toDocument BootVolume.read := by
  apply Survives.ofEntries (fun v => [("encryptionKey", v.encryptionKey.map .text)])
    (fun _ => rfl) (by decide) (fun _ => rfl)
  -- For every record: the entries are what is written, none is idle, and each is read again.
  · intro v
    simp [toDocument]
  · intro v
    simp only [List.forall_mem_cons]
    exact ⟨holds_map .text, List.forall_mem_nil _⟩
  · intro v
    rw [Parts.optional_eq rfl (survives_text kept)]
    rfl

theorem PoolSettings.survives : Survives kept PoolSettings.toDocument PoolSettings.read := by
  apply Survives.ofEntries (fun s => [("type", s.instanceType.map .text), ("zones", texts? s.zones),
    ("bootVolume", s.bootVolume.map BootVolume.toDocument)]) (fun _ => rfl) (by decide) (fun _ => rfl)
  · intro s
    simp [toDocument]
  · intro s
    simp only [List.forall_mem_cons]
    exact ⟨holds_map .text, holds_texts?, holds_map (BootVolume.survives kept).terse,
      List.forall_mem_nil _⟩
  · intro s
    rw [Parts.optional_eq rfl (survives_text kept), Parts.texts_eq rfl,
      Parts.optional_eq rfl (BootVolume.survives kept)]
    rfl

variable {kept}

theorem survives_section {α : Type} {write : α → Document} {read : Reader α}
    (survives : Survives kept write read) : Survives kept (sectionDocument write) (readSection read) := by
  apply Survives.ofEntries (fun settings => [("ibmcloud", settings.map write)])
    (fun _ => rfl) (by decide) (fun _ => rfl)
  · intro settings
    simp [sectionDocument]
  · intro settings
    simp only [List.forall_mem_cons]
    exact ⟨holds_map survives.terse, List.forall_mem_nil _⟩
  · intro settings
    exact Parts.optional_eq rfl survives

variable (kept)

theorem MachinePool.survives : Survives kept MachinePool.toDocument MachinePool.read := by
  have settings := survives_section (PoolSettings.survives kept)
  apply Survives.ofEntries (fun m => [("name", some (.text m.name)),
    ("replicas", m.replicas.map countDocument),
    ("platform", some (sectionDocument PoolSettings.toDocument m.settings))])
    (fun _ => rfl) (by decide) (fun _ => rfl)
  · intro m
    simp [toDocument]
  · intro m
    simp only [List.forall_mem_cons]
    exact ⟨holds_some (.text _), holds_map (survives_count kept).terse, holds_some (settings.terse _),
      List.forall_mem_nil _⟩
  · intro m
    rw [Parts.orElse_eq rfl restores_text, Parts.optional_eq rfl (survives_count kept),
      Parts.orElse_eq rfl settings.restored]
    rfl

theorem Platform.survives : Survives kept Platform.toDocument Platform.read := by
  apply Survives.ofEntries (fun p => [("region", some (.text p.region)),
    ("cisInstanceCRN", some (.text p.dnsInstanceCrn)), ("clusterOSImage", some (.text p.osImage)),
    ("resourceGroup", p.resourceGroup.map .text), ("vpc", p.vpc.map .text),
    ("vpcResourceGroup", p.vpcResourceGroup.map .text), ("subnets", texts? p.subnets),
    ("defaultMachinePlatform", p.defaultMachines.map PoolSettings.toDocument)])
    (fun _ => rfl) (by decide) (fun _ => rfl)
  · intro p
    simp [toDocument]
  · intro p
    simp only [List.forall_mem_cons]
    exact ⟨holds_some (.text _), holds_some (.text _), holds_some (.text _), holds_map .text,
      holds_map .text, holds_map .text, holds_texts?, holds_map (PoolSettings.survives kept).terse,
      List.forall_mem_nil _⟩
  · intro p
    rw [Parts.orElse_eq rfl restores_text, Parts.orElse_eq rfl restores_text,
      Parts.orElse_eq rfl restores_text, Parts.optional_eq rfl (survives_text kept),
      Parts.optional_eq rfl (survives_text kept), Parts.optional_eq rfl (survives_text kept),
      Parts.texts_eq rfl, Parts.optional_eq rfl (PoolSettings.survives kept)]
    rfl

theorem Config.survives (keeps : kept "compute") : Survives kept Config.toDocument Config.read := by
  have named : Survives kept (fun name => .record [("name", .text name)]) readClusterName :=
    .ofTexts (fun name => [("name", name)]) (fun _ => rfl) (by decide) (fun _ => rfl) (fun _ => rfl)
      fun _ => rfl
  have platform := survives_section (Platform.survives kept)
  have machines := MachinePool.survives kept
  apply Survives.ofEntries (fun c => [("metadata", some (.record [("name", .text c.clusterName)])),
    ("baseDomain", some (.text c.baseDomain)),
    ("platform", some (sectionDocument Platform.toDocument c.platform)),
    ("controlPlane", c.controlPlane.map MachinePool.toDocument),
    ("compute", some (.list (c.compute.map MachinePool.toDocument)))])
    (fun _ => rfl) (by decide) (fun _ => rfl)
  · intro c
    simp [toDocument]
  · intro c
    simp only [List.forall_mem_cons]
    exact ⟨holds_some (named.terse _), holds_some (.text _), holds_some (platform.terse _),
      holds_map machines.terse, holds_rows keeps machines.terse, List.forall_mem_nil _⟩
  · intro c
    rw [Parts.orElse_eq rfl named.restored, Parts.orElse_eq rfl restores_text,
      Parts.orElse_eq rfl platform.restored, Parts.optional_eq rfl machines,
      Parts.orElse_eq rfl machines.restored.list]
    rfl

theorem Metadata.survives : Survives kept Metadata.toDocument Metadata.read := by
  apply Survives.ofEntries (fun m => [("region", some (.text m.region)),
    ("resourceGroupID", m.resourceGroup.map .text)]) (fun _ => rfl) (by decide) (fun _ => rfl)
  · intro m
    simp [toDocument]
  · intro m
    simp only [List.forall_mem_cons]
    exact ⟨holds_some (.text _), holds_map .text, List.forall_mem_nil _⟩
  · intro m
    rw [Parts.required_eq rfl restores_text, Parts.optional_eq rfl (survives_text kept)]
    rfl

/-- What is written of the parts of a config, and of metadata: what always has a value, and of the rest only
what is there. A list of subnets or zones is there unless it is empty. -/
structure WritesWhatIsThere : Prop where
  config : ∀ c : Config, fieldNames c.toDocument = marked [("metadata", true), ("baseDomain", true),
    ("platform", true), ("controlPlane", c.controlPlane.isSome), ("compute", true)]
  settingsSection : ∀ (α : Type) (write : α → Document) (settings : Option α),
    fieldNames (sectionDocument write settings) = marked [("ibmcloud", settings.isSome)]
  platform : ∀ p : Platform, fieldNames p.toDocument = marked [("region", true),
    ("cisInstanceCRN", true), ("clusterOSImage", true), ("resourceGroup", p.resourceGroup.isSome),
    ("vpc", p.vpc.isSome), ("vpcResourceGroup", p.vpcResourceGroup.isSome),
    ("subnets", !p.subnets.isEmpty), ("defaultMachinePlatform", p.defaultMachines.isSome)]
  pool : ∀ m : MachinePool, fieldNames m.toDocument = marked [("name", true),
    ("replicas", m.replicas.isSome), ("platform", true)]
  settings : ∀ s : PoolSettings, fieldNames s.toDocument = marked [("type", s.instanceType.isSome),
    ("zones", !s.zones.isEmpty), ("bootVolume", s.bootVolume.isSome)]
  bootVolume : ∀ v : BootVolume,
    fieldNames v.toDocument = marked [("encryptionKey", v.encryptionKey.isSome)]
  metadata : ∀ m : Metadata, fieldNames m.toDocument = marked [("region", true),
    ("resourceGroupID", m.resourceGroup.isSome)]

theorem writesWhatIsThere : WritesWhatIsThere where
  config c := by simp [Config.toDocument, fieldNames]
  settingsSection _ write settings := by simp [sectionDocument, fieldNames]
  platform p := by simp [Platform.toDocument, fieldNames]
  pool m := by simp [MachinePool.toDocument, fieldNames]
  settings s := by simp [PoolSettings.toDocument, fieldNames]
  bootVolume v := by simp [BootVolume.toDocument, fieldNames]
  metadata m := by simp [Metadata.toDocument, fieldNames]

end Install

namespace Cloud

theorem ResourceGroup.survives : Survives kept ResourceGroup.toDocument ResourceGroup.read :=
  .ofTexts (fun g => [("id", g.id), ("name", g.name)]) (fun _ => rfl) (by decide) (fun _ => rfl)
    (fun _ => rfl) fun _ => rfl

theorem DnsInstance.survives : Survives kept DnsInstance.toDocument DnsInstance.read :=
  .ofTexts (fun i => [("crn", i.crn), ("name", i.name)]) (fun _ => rfl) (by decide) (fun _ => rfl)
    (fun _ => rfl) fun _ => rfl

theorem DnsZone.survives : Survives kept DnsZone.toDocument DnsZone.read :=
  .ofTexts (fun z => [("id", z.id), ("name", z.name), ("cis_instance_crn", z.instanceCrn),
    ("cis_instance_name", z.instanceName)]) (fun _ => rfl) (by decide) (fun _ => rfl) (fun _ => rfl)
    fun _ => rfl

theorem Image.survives : Survives kept Image.toDocument Image.read :=
  .ofTexts (fun i => [("id", i.id), ("name", i.name), ("region", i.region)]) (fun _ => rfl) (by decide)
    (fun _ => rfl) (fun _ => rfl) fun _ => rfl

theorem Vpc.survives : Survives kept Vpc.toDocument Vpc.read :=
  .ofTexts (fun v => [("id", v.id), ("name", v.name), ("resource_group_id", v.resourceGroupId)])
    (fun _ => rfl) (by decide) (fun _ => rfl) (fun _ => rfl) fun _ => rfl

theorem Subnet.survives : Survives kept Subnet.toDocument Subnet.read :=
  .ofTexts (fun s => [("id", s.id), ("name", s.name), ("zone", s.zone), ("vpc_id", s.vpcId)])
    (fun _ => rfl) (by decide) (fun _ => rfl) (fun _ => rfl) fun _ => rfl

theorem EncryptionKey.survives : Survives kept EncryptionKey.toDocument EncryptionKey.read :=
  .ofTexts (fun k => [("id", k.id), ("name", k.name)]) (fun _ => rfl) (by decide) (fun _ => rfl)
    (fun _ => rfl) fun _ => rfl

theorem InstanceProfile.survives : Survives kept InstanceProfile.toDocument InstanceProfile.read := by
  apply Survives.ofEntries (fun p : InstanceProfile => [("name", some (.text p.name)),
    ("vcpu", some (.integer p.cpus.toNat)), ("memory_gib", some (.integer p.memoryGiB.toNat))])
    (fun _ => rfl) (by decide) (fun _ => rfl)
  · exact fun _ => rfl
  · intro p
    simp only [List.forall_mem_cons]
    exact ⟨holds_some (.text _), holds_some (.integer _), holds_some (.integer _), List.forall_mem_nil _⟩
  · intro p
    have count := (survives_count kept).restored
    rw [Parts.required_eq rfl restores_text, Parts.required_eq (by rfl) count,
      Parts.required_eq (by rfl) count]
    rfl

/-- A snapshot writes every table, and the zones of every region, be they empty or not. -/
theorem Snapshot.survives (always : ∀ name, kept name) :
    Survives kept Snapshot.toDocument Snapshot.read := by
  have groups := ResourceGroup.survives kept
  have instances := DnsInstance.survives kept
  have zones := DnsZone.survives kept
  have images := Image.survives kept
  have vpcs := Vpc.survives kept
  have subnets := Subnet.survives kept
  have profiles := InstanceProfile.survives kept
  have keys := EncryptionKey.survives kept
  apply Survives.ofEntries (fun s : Snapshot => [("zones", some (ofNameMap texts s.zones)),
    ("resource_groups", some (.list (s.resourceGroups.map ResourceGroup.toDocument))),
    ("cis_instances", some (.list (s.dnsInstances.map DnsInstance.toDocument))),
    ("dns_zones", some (.list (s.dnsZones.map DnsZone.toDocument))),
    ("images", some (.list (s.images.map Image.toDocument))),
    ("vpcs", some (.list (s.vpcs.map Vpc.toDocument))),
    ("subnets", some (.list (s.subnets.map Subnet.toDocument))),
    ("instance_profiles", some (.list (s.instanceProfiles.map InstanceProfile.toDocument))),
    ("encryption_keys", some (.list (s.encryptionKeys.map EncryptionKey.toDocument)))])
    (fun _ => rfl) (by decide) (fun _ => rfl)
  · exact fun _ => rfl
  · intro s
    have regions : Terse kept (ofNameMap texts s.zones) := by
      apply terse_ofNameMap always
      intro items nonempty
      exact terse_map (fun none => nonempty (none ▸ rfl)) .text
    simp only [List.forall_mem_cons]
    exact ⟨holds_some regions, holds_rows (always _) groups.terse, holds_rows (always _) instances.terse,
      holds_rows (always _) zones.terse, holds_rows (always _) images.terse,
      holds_rows (always _) vpcs.terse, holds_rows (always _) subnets.terse,
      holds_rows (always _) profiles.terse, holds_rows (always _) keys.terse, List.forall_mem_nil _⟩
  · intro s
    rw [Parts.orElse_eq rfl restores_texts.nameMap, Parts.orElse_eq rfl groups.restored.list,
      Parts.orElse_eq rfl instances.restored.list, Parts.orElse_eq rfl zones.restored.list,
      Parts.orElse_eq rfl images.restored.list, Parts.orElse_eq rfl vpcs.restored.list,
      Parts.orElse_eq rfl subnets.restored.list, Parts.orElse_eq rfl profiles.restored.list,
      Parts.orElse_eq rfl keys.restored.list]
    rfl

end Cloud

/-- **Documents survive a write and a read.** Every install config, snapshot and metadata is read back from
the document that is written for it. What is absent is left out, and so are empty lists of subnets and
zones: there is no field for it, at no depth is there a null, and the only list of a config that may be
written empty is that of the compute pools. A text that is empty is there, and stays apart from one that is
absent. -/
theorem documents_survive :
    (∀ c : Install.Config,
      Install.Config.read c.toDocument = some c ∧ Terse (· = "compute") c.toDocument) ∧
    (∀ s : Cloud.Snapshot,
      Cloud.Snapshot.read s.toDocument = some s ∧ Terse (fun _ => True) s.toDocument) ∧
    (∀ m : Install.Metadata,
      Install.Metadata.read m.toDocument = some m ∧ Terse (fun _ => False) m.toDocument) ∧
    Install.WritesWhatIsThere := by
  have configs := Install.Config.survives (· = "compute") rfl
  have snapshots := Cloud.Snapshot.survives (fun _ => True) fun _ => trivial
  have metadata := Install.Metadata.survives fun _ => False
  exact ⟨fun c => ⟨configs.restored c, configs.terse c⟩,
    fun s => ⟨snapshots.restored s, snapshots.terse s⟩,
    fun m => ⟨metadata.restored m, metadata.terse m⟩, Install.writesWhatIsThere⟩

/-- An empty name is written, an absent one is not. -/
example :
    Install.Metadata.toDocument ⟨"eu-de", some ""⟩ =
        .record [("region", .text "eu-de"), ("resourceGroupID", .text "")] ∧
      Install.Metadata.toDocument ⟨"eu-de", none⟩ = .record [("region", .text "eu-de")] :=
  ⟨rfl, rfl⟩

end InstallCheck
