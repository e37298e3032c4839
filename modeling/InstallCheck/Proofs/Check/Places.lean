import InstallCheck.Proofs.Check.Isolation
import InstallCheck.Proofs.Field.Path

/-!
What a check of an install config can ask and where it reports it: one inversion for all findings, from
which the places of a report follow.
-/
namespace InstallCheck.Check

open InstallCheck.Field (Issue Path)
open Service (platformPath controlPlanePath computePath poolPaths)

theorem InOrder.exists_part {kinds : List (List Finding → Prop)} {fs : List Finding}
    (inOrder : InOrder kinds fs) {f : Finding} (member : f ∈ fs) :
    ∃ kind ∈ kinds, ∃ part, kind part ∧ f ∈ part ∧ part ⊆ fs := by
  obtain ⟨parts, are, rfl⟩ := inOrder
  obtain ⟨_, among, here⟩ := List.mem_flatten.mp member
  obtain ⟨i, inParts, rfl⟩ := List.getElem_of_mem among
  have inKinds : i < kinds.length := are.length_eq ▸ inParts
  refine ⟨kinds[i], List.getElem_mem inKinds, parts[i], are.get inKinds inParts, here, ?_⟩
  exact fun _ inPart => List.mem_flatten_of_mem among inPart

theorem InOrder.cons_iff {kind : List Finding → Prop} {kinds : List (List Finding → Prop)}
    {fs : List Finding} :
    InOrder (kind :: kinds) fs ↔ ∃ first rest, kind first ∧ InOrder kinds rest ∧ fs = first ++ rest := by
  constructor
  · rintro ⟨parts, are, rfl⟩
    cases are with
    | cons first rest => exact ⟨_, _, first, ⟨_, rest, rfl⟩, rfl⟩
  · rintro ⟨first, _, isFirst, ⟨parts, are, rfl⟩, rfl⟩
    exact ⟨first :: parts, .cons isFirst are, rfl⟩

theorem InOrder.exists_part_of_kind {kinds : List (List Finding → Prop)} {fs : List Finding}
    (inOrder : InOrder kinds fs) {kind : List Finding → Prop} (member : kind ∈ kinds) :
    ∃ part, kind part ∧ part ⊆ fs := by
  obtain ⟨parts, are, rfl⟩ := inOrder
  obtain ⟨i, inKinds, rfl⟩ := List.getElem_of_mem member
  have inParts : i < parts.length := are.length_eq ▸ inKinds
  refine ⟨parts[i], are.get inKinds inParts, ?_⟩
  exact fun _ inPart => List.mem_flatten_of_mem (List.getElem_mem inParts) inPart

/-- The field that a subject is about. -/
def Subject.field : Subject → String
  | dnsInstance _ | dnsZone .. => "cisInstanceCRN"
  | osImage .. => "clusterOSImage"
  | resourceGroup _ => "resourceGroup"
  | vpcGroup _ => "vpcResourceGroup"
  | vpc .. => "vpc"
  | subnetZones _ | subnet .. => "subnets"
  | machineType _ => "type"
  | machineZones .. => "zones"
  | encryptionKey _ => "encryptionKey"

/-- The groups of machines of an install config that have settings, and where they stand. -/
inductive HasPool (c : Install.Config) (p : Install.Platform) : Path → Install.PoolSettings → Prop
  | usual {s : Install.PoolSettings} : p.defaultMachines = some s →
    HasPool c p (platformPath.child "defaultMachinePlatform") s
  | controlPlane {s : Install.PoolSettings} : c.controlPlane.bind (·.settings) = some s →
    HasPool c p controlPlanePath s
  | compute {s : Install.PoolSettings} {pool : Install.MachinePool} {position : Nat} :
    c.compute[position]? = some pool → pool.settings = some s → HasPool c p (computePath position) s

section Asks

variable (c : Install.Config) (p : Install.Platform)

/-- What is always looked up, with the resource group if one is named. -/
inductive AsksBasic : Path → Subject → Prop
  | dnsInstance : AsksBasic (platformPath.child "cisInstanceCRN") (.dnsInstance p.dnsInstanceCrn)
  | dnsZone :
    AsksBasic (platformPath.child "cisInstanceCRN") (.dnsZone p.dnsInstanceCrn c.baseDomain)
  | osImage : AsksBasic (platformPath.child "clusterOSImage") (.osImage p.osImage p.region)
  | resourceGroup {name : String} : p.groupName = some name →
    AsksBasic (platformPath.child "resourceGroup") (.resourceGroup name)

inductive AsksVpc : Path → Subject → Prop
  | vpcGroup {group : String} : p.vpcGroupName = some group →
    AsksVpc (platformPath.child "vpcResourceGroup") (.vpcGroup group)
  | vpc {name : String} (scope : Option String) : p.vpcName = some name →
    AsksVpc (platformPath.child "vpc") (.vpc name scope)

/-- The zones in which a subnet has to lie are those that another one of the findings is about. -/
inductive AsksSubnets (fs : List Finding) : Path → Subject → Prop
  | subnetZones : AsksSubnets fs (platformPath.child "subnets") (.subnetZones p.region)
  | subnet {id : String} {zones : Except LookupError (List String)} : id ∈ p.subnets →
    ⟨platformPath.child "subnets", .subnetZones p.region, zones⟩ ∈ fs →
    AsksSubnets fs (platformPath.child "subnets") (.subnet id zones.toOption)

inductive AsksPool : Path → Subject → Prop
  | machineType {path : Path} {s : Install.PoolSettings} {name : String} : HasPool c p path s →
    s.typeName = some name → AsksPool (path.child "type") (.machineType name)
  | machineZones {path : Path} {s : Install.PoolSettings} : HasPool c p path s →
    AsksPool (path.child "zones") (.machineZones p.region s.zones)
  | encryptionKey {path : Path} {s : Install.PoolSettings} {key : String} : HasPool c p path s →
    s.keyName = some key →
    AsksPool ((path.child "bootVolume").child "encryptionKey") (.encryptionKey key)

/-- What a check of an install config may look up, and where it reports what comes of it. -/
inductive Asks (fs : List Finding) (place : Path) (s : Subject) : Prop
  | basic : AsksBasic c p place s → Asks fs place s
  | vpc : AsksVpc p place s → Asks fs place s
  | subnets : AsksSubnets p fs place s → Asks fs place s
  | pool : AsksPool c p place s → Asks fs place s

variable {c p} {fs : List Finding} {place path : Path} {name : String} {s : Subject}

theorem AsksBasic.field_mem (asks : AsksBasic c p place s) :
    s.field ∈ ["cisInstanceCRN", "clusterOSImage", "resourceGroup"] := by
  cases asks <;> simp [Subject.field]

theorem AsksSubnets.field_eq (asks : AsksSubnets p fs place s) : s.field = "subnets" := by
  cases asks <;> rfl

theorem AsksPool.field_mem (asks : AsksPool c p place s) :
    s.field ∈ ["type", "zones", "encryptionKey"] := by
  cases asks <;> simp [Subject.field]

/-- What is asked is reported at the field that it is about. -/
theorem Asks.exists_parent (asks : Asks c p fs place s) :
    ∃ parent : Path, place = parent.child s.field := by
  cases asks with
  | basic asks => cases asks <;> exact ⟨_, rfl⟩
  | vpc asks => cases asks <;> exact ⟨_, rfl⟩
  | subnets asks => cases asks <;> exact ⟨_, rfl⟩
  | pool asks => cases asks <;> exact ⟨_, rfl⟩

theorem Asks.field_eq (asks : Asks c p fs (path.child name) s) : s.field = name := by
  obtain ⟨parent, same⟩ := asks.exists_parent
  exact (Field.Path.child_eq_child_iff.mp same).2.symm

theorem Asks.mono {all : List Finding} (asks : Asks c p fs place s) (within : fs ⊆ all) :
    Asks c p all place s := by
  cases asks with
  | basic asks => exact .basic asks
  | vpc asks => exact .vpc asks
  | subnets asks =>
    cases asks with
    | subnetZones => exact .subnets .subnetZones
    | subnet listed known => exact .subnets (.subnet listed (within known))
  | pool asks => exact .pool asks

end Asks

namespace Survey

variable {c : Install.Config} {p : Install.Platform} {fs all : List Finding} {f : Finding}

theorem IfNamed.exists_name {identifier : Option String} {kind : String → List Finding → Prop}
    (ifNamed : IfNamed identifier kind fs) (member : f ∈ fs) :
    ∃ name, identifier = some name ∧ kind name fs := by
  cases identifier with
  | none => exact absurd (ifNamed ▸ member) List.not_mem_nil
  | some name => exact ⟨name, rfl, ifNamed⟩

theorem IfListed.of_mem {items : List String} {kind : List Finding → Prop}
    (ifListed : IfListed items kind fs) (member : f ∈ fs) : kind fs := by
  unfold IfListed at ifListed
  split at ifListed
  · exact absurd (ifListed ▸ member) List.not_mem_nil
  · exact ifListed

theorem IfSet.exists_settings {settings : Option Install.PoolSettings} {region : String} {path : Path}
    (ifSet : IfSet settings region path fs) (member : f ∈ fs) :
    ∃ s, settings = some s ∧ Pool region s path fs := by
  cases settings with
  | none => exact absurd (ifSet ▸ member) List.not_mem_nil
  | some s => exact ⟨s, rfl, ifSet⟩

theorem Single.eq {place : Path} {s : Subject} (single : Single place s fs) (member : f ∈ fs) :
    ∃ r, f = ⟨place, s, r⟩ := by
  obtain ⟨r, rfl⟩ := single
  exact ⟨r, List.mem_singleton.mp member⟩

theorem Pool.asks {path : Path} {s : Install.PoolSettings} (stands : HasPool c p path s)
    (pool : Pool p.region s path fs) (member : f ∈ fs) : AsksPool c p f.place f.subject := by
  obtain ⟨kind, isKind, part, holds, here, -⟩ := pool.exists_part member
  simp only [List.mem_cons, List.not_mem_nil, or_false] at isKind
  rcases isKind with rfl | rfl | rfl
  · obtain ⟨name, named, single⟩ := IfNamed.exists_name holds here
    obtain ⟨r, rfl⟩ := single.eq here
    exact .machineType stands named
  · have single := IfListed.of_mem holds here
    obtain ⟨r, rfl⟩ := Single.eq single here
    exact .machineZones stands
  · obtain ⟨key, named, single⟩ := IfNamed.exists_name holds here
    obtain ⟨r, rfl⟩ := single.eq here
    exact .encryptionKey stands named

theorem Subnets.asks (subnets : Subnets p.region p.subnets platformPath fs) (within : fs ⊆ all)
    (member : f ∈ fs) : AsksSubnets p all f.place f.subject := by
  obtain ⟨zones, inOrder⟩ := subnets
  rcases List.mem_cons.mp member with rfl | later
  · exact .subnetZones
  · obtain ⟨kind, isKind, part, holds, here, -⟩ := inOrder.exists_part later
    obtain ⟨id, listed, rfl⟩ := List.mem_map.mp isKind
    obtain ⟨r, rfl⟩ := Single.eq holds here
    exact .subnet listed (within List.mem_cons_self)

theorem Vpc.asks {name : String} (named : p.vpcName = some name) (vpc : Vpc p platformPath name fs)
    (member : f ∈ fs) : AsksVpc p f.place f.subject := by
  cases vpc with
  | inGroup r _ =>
    rw [List.mem_singleton.mp member]
    exact .vpc _ named
  | unresolved e grouped =>
    rw [List.mem_singleton.mp member]
    exact .vpcGroup grouped
  | resolved found r grouped =>
    rcases List.mem_pair.mp member with rfl | rfl
    · exact .vpcGroup grouped
    · exact .vpc _ named

theorem DnsInstance.asks (instances : DnsInstance c.baseDomain p.dnsInstanceCrn platformPath fs)
    (member : f ∈ fs) : AsksBasic c p f.place f.subject := by
  cases instances with
  | unresolved e =>
    rw [List.mem_singleton.mp member]
    exact .dnsInstance
  | resolved found zone =>
    rcases List.mem_pair.mp member with rfl | rfl
    · exact .dnsInstance
    · exact .dnsZone

theorem Basics.asks (basics : Basics c.baseDomain p platformPath fs) (member : f ∈ fs) :
    AsksBasic c p f.place f.subject := by
  obtain ⟨kind, isKind, part, holds, here, -⟩ := basics.exists_part member
  simp only [List.mem_cons, List.not_mem_nil, or_false] at isKind
  rcases isKind with rfl | rfl | rfl
  · exact DnsInstance.asks holds here
  · obtain ⟨r, rfl⟩ := Single.eq holds here
    exact .osImage
  · obtain ⟨name, named, single⟩ := IfNamed.exists_name holds here
    obtain ⟨r, rfl⟩ := single.eq here
    exact .resourceGroup named

/-- The private cloud comes first, and only if it is named. Everything else is about subnets and
machines. -/
theorem Resources.exists_network (resources : Resources c p platformPath fs) :
    ∃ network rest, fs = network ++ rest ∧ IfNamed p.vpcName (Vpc p platformPath) network ∧
      ∀ f ∈ rest, AsksSubnets p fs f.place f.subject ∨ AsksPool c p f.place f.subject := by
  obtain ⟨network, rest, isNetwork, inOrder, rfl⟩ := InOrder.cons_iff.mp resources
  refine ⟨network, rest, rfl, isNetwork, fun f member => ?_⟩
  obtain ⟨kind, isKind, part, holds, here, inside⟩ := inOrder.exists_part member
  simp only [List.append_eq, List.mem_append, List.mem_cons, List.not_mem_nil, or_false] at isKind
  rcases isKind with (rfl | rfl | rfl) | ofCompute
  · have within : part ⊆ network ++ rest := List.Subset.trans inside (List.subset_append_right _ _)
    exact .inl (Subnets.asks (IfListed.of_mem holds here) within here)
  · obtain ⟨s, set, pool⟩ := IfSet.exists_settings holds here
    exact .inr (pool.asks (.usual set) here)
  · obtain ⟨s, set, pool⟩ := IfSet.exists_settings holds here
    exact .inr (pool.asks (.controlPlane set) here)
  · obtain ⟨position, listed, rfl⟩ := List.mem_mapIdx.mp ofCompute
    obtain ⟨s, set, pool⟩ := IfSet.exists_settings holds here
    exact .inr (pool.asks (.compute (List.getElem?_eq_getElem listed) set) here)

theorem Resources.asks (resources : Resources c p platformPath fs) (member : f ∈ fs) :
    Asks c p fs f.place f.subject := by
  obtain ⟨network, rest, joined, isNetwork, others⟩ := resources.exists_network
  rcases List.mem_append.mp (joined ▸ member) with here | there
  · obtain ⟨name, named, vpc⟩ := isNetwork.exists_name here
    exact .vpc (vpc.asks named here)
  · exact (others f there).elim .subnets .pool

end Survey

namespace Accounted

variable {regions : Region.Catalog} {c : Install.Config} {p : Install.Platform}
  {answered : List Exchange} {report : List Issue} {basics resources : List Finding}

theorem asks (h : Accounted regions c p answered report basics resources) {f : Finding}
    (member : f ∈ basics ++ resources) : Asks c p (basics ++ resources) f.place f.subject := by
  rcases List.mem_append.mp member with basic | resource
  · exact .basic (h.basicsMade.asks basic)
  · exact (h.resourcesMade.asks resource).mono (List.subset_append_right _ _)

/-- The issues of a report are those that the rules find and those of its findings. -/
theorem mem_report_iff (h : Accounted regions c p answered report basics resources) {i : Issue} :
    i ∈ report ↔
      i ∈ Install.Rules.region regions p.region (platformPath.child "region") ∨
      i ∈ Install.Rules.network p platformPath ∨ ∃ f ∈ basics ++ resources, i ∈ f.issues := by
  rw [← List.mem_flatMap, List.flatMap_append, h.inOrder]
  simp only [List.mem_append]
  tauto

/-- An issue at a field that no rule is about is one of a finding. -/
theorem exists_finding_of_path (h : Accounted regions c p answered report basics resources) {i : Issue}
    (member : i ∈ report) {name : String} (there : i.path = platformPath.child name)
    (noRule : name ∉ ["region", "vpc", "subnets"]) :
    ∃ f ∈ basics ++ resources, i ∈ f.issues ∧ f.place = i.path ∧ f.subject.field = name := by
  have differs {other : String} (ruled : i.path = platformPath.child other) : name = other :=
    (Field.Path.child_eq_child_iff.mp (there.symm.trans ruled)).2
  rcases h.mem_report_iff.mp member with ruled | ruled | ⟨f, among, found⟩
  · have same := differs (Install.Rules.path_of_mem_region ruled)
    exact absurd (by simp [same]) noRule
  · rcases Install.Rules.mem_network ruled with rfl | rfl
    · exact absurd (by simp [differs rfl]) noRule
    · exact absurd (by simp [differs rfl]) noRule
  · have place : f.place = i.path := (Finding.path_of_mem_issues found).symm
    have asks := h.asks among
    rw [place, there] at asks
    exact ⟨f, among, found, place, asks.field_eq⟩

end Accounted

namespace Service

/-- The fields of a platform section, besides its machines, that issues are reported at. -/
def platformFields : List String :=
  ["region", "cisInstanceCRN", "clusterOSImage", "resourceGroup", "vpcResourceGroup", "vpc", "subnets"]

/-- The places at which an issue of an install config can be reported. -/
def reportPlaces (c : Install.Config) : List Path :=
  platformFields.map platformPath.child ++
  (poolPaths c).flatMap fun path =>
    [path.child "type", path.child "zones", (path.child "bootVolume").child "encryptionKey"]

variable {s : Service} {session : Session} {c : Install.Config} {p : Install.Platform}

theorem mem_reportPlaces_of_field {name : String} (field : name ∈ platformFields) :
    platformPath.child name ∈ reportPlaces c :=
  List.mem_append_left _ (List.mem_map_of_mem field)

theorem mem_reportPlaces_of_pool {path place : Path} (stands : path ∈ poolPaths c)
    (of : place ∈ [path.child "type", path.child "zones",
      (path.child "bootVolume").child "encryptionKey"]) : place ∈ reportPlaces c :=
  List.mem_append_right _ (List.mem_flatMap.mpr ⟨path, stands, of⟩)

end Service

open Service (reportPlaces mem_reportPlaces_of_field mem_reportPlaces_of_pool)

variable {c : Install.Config} {p : Install.Platform}

theorem HasPool.mem_poolPaths {path : Path} {s : Install.PoolSettings} (stands : HasPool c p path s) :
    path ∈ poolPaths c := by
  cases stands with
  | usual _ => exact List.mem_cons_self
  | controlPlane _ => exact List.mem_cons_of_mem _ List.mem_cons_self
  | @compute _ _ position listed _ =>
    have inRange : position ∈ List.range c.compute.length :=
      List.mem_range.mpr (List.getElem?_eq_some_iff.mp listed).1
    exact List.mem_cons_of_mem _ (List.mem_cons_of_mem _ (List.mem_map_of_mem inRange))

theorem Asks.mem_reportPlaces {fs : List Finding} {place : Path} {s : Subject}
    (asks : Asks c p fs place s) : place ∈ reportPlaces c := by
  cases asks with
  | basic asks => cases asks <;> exact mem_reportPlaces_of_field (by decide)
  | vpc asks => cases asks <;> exact mem_reportPlaces_of_field (by decide)
  | subnets asks => cases asks <;> exact mem_reportPlaces_of_field (by decide)
  | pool asks =>
    cases asks with
    | machineType stands _ => exact mem_reportPlaces_of_pool stands.mem_poolPaths (by simp)
    | machineZones stands => exact mem_reportPlaces_of_pool stands.mem_poolPaths (by simp)
    | encryptionKey stands _ => exact mem_reportPlaces_of_pool stands.mem_poolPaths (by simp)

namespace Service

variable {s : Service} {session : Session}

/-- The report of any check, disturbed or not, accounts for lookups whose answers are the cloud's to calls
that were made, or that the lookup was cut short. -/
theorem exists_accounted (session : Session) (given : c.platform = some p) :
    ∃ answered report basics resources, (s.check session c).1 = .ok report ∧
      Accounted s.regions c p answered report basics resources ∧
      ∀ x ∈ answered,
        x.result = .error .cancelled ∨ x.result = .error (.timeout session.limit) ∨
          ∃ earlier later, (s.check session c).2.calls = earlier ++ x.query :: later ∧
            x.result = (s.cloud session.limit earlier x.query).result := by
  rw [check_of_platform given]
  obtain ⟨t, course, outcomes⟩ :=
    Inquiry.exists_dialogue_run s.cloud (checks s.regions c p) session
  obtain ⟨basics, resources, areBasics, areResources, lookups, inOrder⟩ := checks_dialogue course
  exact ⟨t, _, basics, resources, rfl, ⟨areBasics, areResources, lookups.symm, inOrder⟩, outcomes⟩

/-- Every issue of a check is reported at one of the places of its install config. -/
theorem path_mem_reportPlaces {report : List Issue} {i : Issue}
    (checked : (s.check session c).1 = .ok report) (member : i ∈ report) :
    i.path ∈ reportPlaces c := by
  cases given : c.platform with
  | none =>
    rw [check, given] at checked
    cases checked
  | some p =>
    obtain ⟨_, _, _, _, same, accounted, -⟩ := exists_accounted (s := s) session given
    cases checked.symm.trans same
    rcases accounted.mem_report_iff.mp member with ruled | ruled | ⟨f, among, found⟩
    · rw [Install.Rules.path_of_mem_region ruled]
      exact mem_reportPlaces_of_field (by decide)
    · rcases Install.Rules.mem_network ruled with rfl | rfl <;>
        exact mem_reportPlaces_of_field (by decide)
    · rw [Finding.path_of_mem_issues found]
      exact (accounted.asks among).mem_reportPlaces

end Service

end InstallCheck.Check
