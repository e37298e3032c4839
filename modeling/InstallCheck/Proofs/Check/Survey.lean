import InstallCheck.Check.Service
import InstallCheck.Proofs.Check.Findings
import Mathlib.Data.List.Forall2

/-!
Which lookups a check makes, for what and in which order, as a property of its findings: which lookups
depend on an earlier answer, which are made only if something is named, and which are repeated. Every
dialogue of a check is a list of such findings, and its report is made of their issues.
-/
namespace InstallCheck.Check

open InstallCheck.Field (Issue Path)

/-- Findings of one kind after the other. -/
def InOrder (kinds : List (List Finding → Prop)) (fs : List Finding) : Prop :=
  ∃ parts, List.Forall₂ (fun kind part => kind part) kinds parts ∧ fs = parts.flatten

theorem InOrder.append {l m : List (List Finding → Prop)} {fs gs : List Finding}
    (first : InOrder l fs) (second : InOrder m gs) : InOrder (l ++ m) (fs ++ gs) := by
  obtain ⟨parts, are, rfl⟩ := first
  obtain ⟨others, areToo, rfl⟩ := second
  exact ⟨parts ++ others, List.rel_append are areToo, by simp⟩

/-- What holds of all findings of each kind holds of all of them. -/
theorem InOrder.all {kinds : List (List Finding → Prop)} {fs : List Finding} {P : Finding → Prop}
    (inOrder : InOrder kinds fs) (each : ∀ kind ∈ kinds, ∀ part, kind part → ∀ f ∈ part, P f) :
    ∀ f ∈ fs, P f := by
  obtain ⟨parts, are, rfl⟩ := inOrder
  induction are with
  | nil => simp
  | cons first _ ih =>
    simp only [List.flatten_cons, List.mem_append]
    rintro f (here | there)
    · exact each _ List.mem_cons_self _ first f here
    · exact ih (fun kind member => each kind (List.mem_cons_of_mem _ member)) f there

namespace Survey

/-- No findings. -/
def Nothing (fs : List Finding) : Prop := fs = []

/-- One finding on a subject. -/
def Single (place : Path) (s : Subject) (fs : List Finding) : Prop := ∃ r, fs = [⟨place, s, r⟩]

/-- Findings on what is named, if anything is. -/
def IfNamed (identifier : Option String) (kind : String → List Finding → Prop) : List Finding → Prop :=
  match identifier with
  | some name => kind name
  | none => Nothing

/-- Findings on what is listed, if anything is. -/
def IfListed (items : List String) (kind : List Finding → Prop) : List Finding → Prop :=
  if items.isEmpty then Nothing else kind

/-- The zone of a base domain is looked up once its service instance is there. -/
inductive DnsInstance (domain crn : String) (path : Path) : List Finding → Prop
  | unresolved (e : LookupError) :
    DnsInstance domain crn path [⟨path.child "cisInstanceCRN", .dnsInstance crn, .error e⟩]
  | resolved (found : Cloud.DnsInstance) (zone : Except LookupError String) :
    DnsInstance domain crn path
      [⟨path.child "cisInstanceCRN", .dnsInstance crn, .ok found⟩,
        ⟨path.child "cisInstanceCRN", .dnsZone crn domain, zone⟩]

/-- A private cloud with a resource group of its own is looked up in that group, once the group is
there; one without is looked up in the group of the installation. -/
inductive Vpc (p : Install.Platform) (path : Path) (name : String) : List Finding → Prop
  | inGroup (r : Except LookupError Cloud.Vpc) : p.vpcGroupName = none →
    Vpc p path name [⟨path.child "vpc", .vpc name p.groupName, r⟩]
  | unresolved {group : String} (e : LookupError) : p.vpcGroupName = some group →
    Vpc p path name [⟨path.child "vpcResourceGroup", .vpcGroup group, .error e⟩]
  | resolved {group : String} (found : Cloud.ResourceGroup) (r : Except LookupError Cloud.Vpc) :
    p.vpcGroupName = some group →
    Vpc p path name
      [⟨path.child "vpcResourceGroup", .vpcGroup group, .ok found⟩,
        ⟨path.child "vpc", .vpc name (some found.id), r⟩]

/-- The zones of the region are looked up once, then every subnet whatever comes of that. -/
inductive Subnets (region : String) (ids : List String) (path : Path) : List Finding → Prop
  | intro (zones : Except LookupError (List String)) {fs : List Finding} :
    InOrder (ids.map fun id => Single (path.child "subnets") (.subnet id zones.toOption)) fs →
    Subnets region ids path (⟨path.child "subnets", .subnetZones region, zones⟩ :: fs)

theorem Single.place {place : Path} {s : Subject} {fs : List Finding} (single : Single place s fs) :
    ∀ f ∈ fs, f.place = place := by
  obtain ⟨r, rfl⟩ := single
  simp

theorem Subnets.place {region : String} {ids : List String} {path : Path} {fs : List Finding}
    (subnets : Subnets region ids path fs) : ∀ f ∈ fs, f.place = path.child "subnets" := by
  obtain ⟨zones, inOrder⟩ := subnets
  rw [List.forall_mem_cons]
  refine ⟨rfl, inOrder.all ?_⟩
  simp only [List.mem_map]
  rintro _ ⟨id, -, rfl⟩ part single
  exact single.place

/-- The findings on a group of machines. -/
def Pool (region : String) (s : Install.PoolSettings) (path : Path) : List Finding → Prop :=
  InOrder
    [IfNamed s.typeName fun name => Single (path.child "type") (.machineType name),
    IfListed s.zones (Single (path.child "zones") (.machineZones region s.zones)),
    IfNamed s.keyName fun key =>
      Single ((path.child "bootVolume").child "encryptionKey") (.encryptionKey key)]

/-- The findings on a group of machines, if it has settings. -/
def IfSet (settings : Option Install.PoolSettings) (region : String) (path : Path) :
    List Finding → Prop :=
  match settings with
  | some s => Pool region s path
  | none => Nothing

/-- The findings on DNS, image and resource group. -/
def Basics (domain : String) (p : Install.Platform) (path : Path) : List Finding → Prop :=
  InOrder
    [DnsInstance domain p.dnsInstanceCrn path,
    Single (path.child "clusterOSImage") (.osImage p.osImage p.region),
    IfNamed p.groupName fun name => Single (path.child "resourceGroup") (.resourceGroup name)]

/-- The findings on the network and on the machines, first of those of the platform. -/
def Resources (c : Install.Config) (p : Install.Platform) (path : Path) : List Finding → Prop :=
  InOrder
    ([IfNamed p.vpcName (Vpc p path),
      IfListed p.subnets (Subnets p.region p.subnets path),
      IfSet p.defaultMachines p.region (path.child "defaultMachinePlatform"),
      IfSet (c.controlPlane.bind (·.settings)) p.region Service.controlPlanePath] ++
    c.compute.mapIdx fun position pool =>
      IfSet pool.settings p.region (Service.computePath position))

end Survey

namespace Inquiry

/-- Whatever the answers, an inquiry makes the lookups of findings of some kind, and what it yields are
their issues. -/
def Yields (i : Inquiry (List Issue)) (kind : List Finding → Prop) : Prop :=
  ∀ t issues, i.Dialogue t issues →
    ∃ fs, kind fs ∧ t = fs.map Finding.exchange ∧ issues = fs.flatMap Finding.issues

/-- Every issue of an inquiry is one of a finding. -/
theorem Yields.exists_finding {i : Inquiry (List Issue)} {kind : List Finding → Prop} {issue : Issue}
    (yields : i.Yields kind) (finds : i.Finds issue) :
    ∃ fs, kind fs ∧ ∃ f ∈ fs, issue.path = f.place := by
  obtain ⟨t, _, course, member⟩ := finds
  obtain ⟨fs, isKind, -, rfl⟩ := yields t _ course
  obtain ⟨f, among, found⟩ := List.mem_flatMap.mp member
  exact ⟨fs, isKind, f, among, Finding.path_of_mem_issues found⟩

/-- The issues of an inquiry are where its findings are. -/
theorem Yields.path_of_mem_value {i : Inquiry (List Issue)} {kind : List Finding → Prop} {place : Path}
    {answers : (q : Cloud.Query) → q.Result} {issue : Issue} (yields : i.Yields kind)
    (places : ∀ fs, kind fs → ∀ f ∈ fs, f.place = place) (member : issue ∈ i.value answers) :
    issue.path = place := by
  obtain ⟨fs, isKind, f, among, there⟩ := yields.exists_finding (finds_of_mem_value member)
  rw [there]
  exact places fs isKind f among

/-- Answers that agree on every lookup of an inquiry lead to the same. -/
theorem Yields.value_congr {i : Inquiry (List Issue)} {kind : List Finding → Prop}
    {answers others : (q : Cloud.Query) → q.Result} (yields : i.Yields kind)
    (agree : ∀ fs, kind fs → ∀ f ∈ fs, answers f.subject.query = others f.subject.query) :
    i.value answers = i.value others := by
  obtain ⟨t, course, answered⟩ := exists_dialogue_value answers i
  obtain ⟨fs, isKind, rfl, -⟩ := yields t _ course
  apply course.eq_value
  intro x member
  obtain ⟨f, among, rfl⟩ := List.mem_map.mp member
  rw [answered _ member]
  exact agree fs isKind f among

theorem yields_nothing : (pure [] : Inquiry (List Issue)).Yields Survey.Nothing := by
  intro t issues h
  obtain ⟨rfl, rfl⟩ := dialogue_pure.mp h
  exact ⟨[], rfl, rfl, rfl⟩

theorem Yields.report {i : Inquiry (List Issue)} {kind : List Finding → Prop} (h : i.Yields kind)
    (e : Logging.Event) : (report e >>= fun _ => i).Yields kind :=
  fun t issues course => h t issues (dialogue_report_bind.mp course)

/-- An inquiry that asks once and turns the result into its issues yields a single finding. -/
theorem yields_single {place : Path} {s : Subject} {next : s.query.Result → Inquiry (List Issue)}
    (judges : ∀ r t issues, (next r).Dialogue t issues →
      t = [] ∧ issues = Finding.issues ⟨place, s, r⟩) :
    (query s.query >>= next).Yields (Survey.Single place s) := by
  intro t issues h
  obtain ⟨r, rest, rfl, goesOn⟩ := dialogue_query_bind.mp h
  obtain ⟨rfl, rfl⟩ := judges r rest issues goesOn
  exact ⟨_, ⟨r, rfl⟩, rfl, (List.append_nil _).symm⟩

theorem yields_concat {is : List (Inquiry (List Issue))} {kinds : List (List Finding → Prop)}
    (each : List.Forall₂ Yields is kinds) : (concat is).Yields (InOrder kinds) := by
  induction each with
  | nil =>
    intro t issues h
    obtain ⟨rfl, rfl⟩ := dialogue_pure.mp h
    exact ⟨[], ⟨[], .nil, rfl⟩, rfl, rfl⟩
  | cons first _ ih =>
    intro t issues h
    obtain ⟨here, later, x, y, rfl, rfl, now, after⟩ := dialogue_concat_cons.mp h
    obtain ⟨fs, isFirst, rfl, rfl⟩ := first here x now
    obtain ⟨gs, ⟨parts, areRest, rfl⟩, rfl, rfl⟩ := ih later y after
    exact ⟨fs ++ parts.flatten, ⟨fs :: parts, .cons isFirst areRest, rfl⟩, by simp, by simp⟩

end Inquiry

open Inquiry

theorem Platform.dnsInstance_yields (domain crn : String) (path : Path) :
    (Platform.dnsInstance domain crn path).Yields (Survey.DnsInstance domain crn path) := by
  intro t issues course
  obtain ⟨found, rest, rfl, afterInstance⟩ := dialogue_query_bind.mp course
  clear course
  cases found with
  | error e =>
    refine ⟨_, .unresolved e, ?_⟩
    have judged : rest = [] ∧
        issues = Finding.issues ⟨path.child "cisInstanceCRN", .dnsInstance crn, .error e⟩ := by
      cases interrupted : e.isInterrupted <;>
        simpa [Finding.issues, Subject.failure, interrupted] using afterInstance
    simp [judged, Finding.exchange]
  | ok found =>
    obtain ⟨zone, rest, rfl, afterZone⟩ := dialogue_query_bind.mp afterInstance
    refine ⟨_, .resolved found zone, ?_⟩
    have judged : rest = [] ∧
        issues = Finding.issues ⟨path.child "cisInstanceCRN", .dnsZone crn domain, zone⟩ := by
      unfold Finding.issues Subject.failure Subject.objections Subject.noZone
      cases zone with
      | error e => cases interrupted : e.isInterrupted <;> simpa [interrupted] using afterZone
      | ok id => by_cases missing : id = "" <;> simpa [missing] using afterZone
    have noObjection :
        Finding.issues ⟨path.child "cisInstanceCRN", .dnsInstance crn, .ok found⟩ = [] := rfl
    simp [judged, noObjection, Finding.exchange]

theorem Platform.osImage_yields (image region : String) (path : Path) :
    (Platform.osImage image region path).Yields
      (Survey.Single (path.child "clusterOSImage") (.osImage image region)) := by
  apply yields_single (s := .osImage image region)
  intro r t issues h
  cases r with
  | ok found => simpa [Finding.issues, Subject.objections] using h
  | error e =>
    cases e <;> simpa [Finding.issues, Subject.failure, LookupError.isInterrupted,
      LookupError.isNotFound] using h

theorem Platform.resourceGroup_yields (name : String) (path : Path) :
    (Platform.resourceGroup name path).Yields
      (Survey.Single (path.child "resourceGroup") (.resourceGroup name)) := by
  apply yields_single (s := .resourceGroup name)
  intro r t issues h
  cases r with
  | error e => simpa [Finding.issues, Subject.failure] using h
  | ok groups =>
    by_cases listed : ∃ g ∈ groups, g.id = name ∨ g.name = name <;>
      simp_all [Finding.issues, Subject.objections, Cloud.ResourceGroup.answersTo]

theorem Network.vpcWithin_yields (scope : Option String) (name : String) (path : Path) :
    (Network.vpcWithin scope name path).Yields
      (Survey.Single (path.child "vpc") (.vpc name scope)) := by
  refine (yields_single (s := .vpc name scope) fun r t issues h => ?_).report _
  cases r with
  | ok found => simpa [Finding.issues, Subject.objections] using h
  | error e => simpa [Finding.issues, Subject.failure, lookupIssue] using h

theorem Network.vpc_yields (p : Install.Platform) (name : String) (path : Path) :
    (Network.vpc p name path).Yields (Survey.Vpc p path name) := by
  cases named : p.vpcGroupName with
  | none =>
    intro t issues course
    simp only [Network.vpc, named] at course
    obtain ⟨fs, ⟨r, rfl⟩, came⟩ := Network.vpcWithin_yields _ _ _ t issues course
    exact ⟨_, .inGroup r named, came⟩
  | some group =>
    intro t issues course
    simp only [Network.vpc, named] at course
    obtain ⟨r, rest, rfl, afterGroup⟩ := dialogue_query_bind.mp course
    clear course
    cases r with
    | error e =>
      refine ⟨_, .unresolved e named, ?_⟩
      have judged : rest = [] ∧ issues = [lookupIssue (path.child "vpcResourceGroup") group e] := by
        simpa using afterGroup
      simp [judged, Finding.exchange, Finding.issues, Subject.failure, lookupIssue]
    | ok found =>
      obtain ⟨fs, ⟨r, rfl⟩, rfl, rfl⟩ := Network.vpcWithin_yields _ _ _ rest issues afterGroup
      exact ⟨_, .resolved found r named, rfl, rfl⟩

theorem Network.subnet_yields (zones : Option (List String)) (id : String) (path : Path) :
    (Network.subnet (zones.map (·.mergeSort (· ≤ ·))) id path).Yields
      (Survey.Single (path.child "subnets") (.subnet id zones)) := by
  apply yields_single (s := .subnet id zones)
  intro r t issues h
  cases r with
  | error e => simpa [Finding.issues, Subject.failure, lookupIssue] using h
  | ok found =>
    cases zones with
    | none => simpa [Finding.issues, Subject.objections] using h
    | some zones =>
      by_cases fits : found.zone ∈ zones <;>
        simpa [Finding.issues, Subject.objections, Subject.notAmong, fits] using h

/-- Asking for the zones of a region is one lookup, whose answer is sorted. -/
theorem dialogue_regionZones {region : String} {t : List Exchange}
    {r : Except LookupError (List String)} :
    (regionZones region).Dialogue t r ↔
      ∃ zones : Except LookupError (List String),
        t = [⟨.vpcZones region, zones⟩] ∧ r = zones.map (·.mergeSort (· ≤ ·)) := by
  constructor
  · intro course
    obtain ⟨zones, rest, rfl, settled⟩ := dialogue_query_bind.mp course
    refine ⟨zones, ?_⟩
    cases zones <;> simpa [Except.map] using settled
  · rintro ⟨zones, rfl, rfl⟩
    refine dialogue_query_bind.mpr ⟨zones, [], rfl, ?_⟩
    cases zones <;> simp [Except.map]

theorem Network.subnets_yields (region : String) (ids : List String) (path : Path) :
    (Network.subnets region ids path).Yields (Survey.Subnets region ids path) := by
  have each (zones : Option (List String)) :
      (concat (ids.map fun id =>
        Network.subnet (zones.map (·.mergeSort (· ≤ ·))) id path)).Yields
      (InOrder (ids.map fun id => Survey.Single (path.child "subnets") (.subnet id zones))) := by
    apply yields_concat
    rw [List.forall₂_map_left_iff, List.forall₂_map_right_iff, List.forall₂_same]
    exact fun id _ => Network.subnet_yields zones id path
  intro t issues course
  obtain ⟨first, rest, r, rfl, asked, goesOn⟩ := dialogue_bind.mp course
  obtain ⟨zones, rfl, rfl⟩ := dialogue_regionZones.mp asked
  -- The subnets are looked up either way; what the zones are only decides how they are judged.
  cases zones with
  | ok zones =>
    obtain ⟨fs, inOrder, rfl, rfl⟩ := each (some zones) rest issues goesOn
    exact ⟨_, .intro (.ok zones) inOrder, rfl, rfl⟩
  | error e =>
    obtain ⟨first, _, found, rfl, asked, ended⟩ := dialogue_bind.mp goesOn
    obtain ⟨rfl, rfl⟩ := dialogue_pure.mp ended
    obtain ⟨fs, inOrder, rfl, rfl⟩ := each none first found asked
    exact ⟨_, .intro (.error e) inOrder, by simp [Finding.exchange], rfl⟩

theorem Machines.instanceType_yields (name : String) (path : Path) :
    (Machines.instanceType name path).Yields
      (Survey.Single (path.child "type") (.machineType name)) := by
  apply yields_single (s := .machineType name)
  intro r t issues h
  cases r with
  | error e => simpa [Finding.issues, Subject.failure] using h
  | ok profiles =>
    by_cases offered : ∃ m ∈ profiles, m.name = name <;>
      simp_all [Finding.issues, Subject.objections]

theorem Machines.zones_yields (region : String) (declared : List String) (path : Path) :
    (Machines.zones region declared path).Yields
      (Survey.Single (path.child "zones") (.machineZones region declared)) := by
  intro t issues course
  obtain ⟨first, rest, r, rfl, asked, goesOn⟩ := dialogue_bind.mp course
  obtain ⟨zones, rfl, rfl⟩ := dialogue_regionZones.mp asked
  refine ⟨_, ⟨zones, rfl⟩, ?_⟩
  cases zones with
  | error e =>
    obtain ⟨rfl, rfl⟩ := dialogue_pure.mp goesOn
    exact ⟨rfl, rfl⟩
  | ok zones =>
    obtain ⟨rfl, rfl⟩ := dialogue_pure.mp goesOn
    refine ⟨rfl, ?_⟩
    simp [Finding.issues, Subject.objections, Subject.notAmong]

theorem Machines.bootVolumeKey_yields (key : String) (path : Path) :
    (Machines.bootVolumeKey key path).Yields
      (Survey.Single ((path.child "bootVolume").child "encryptionKey") (.encryptionKey key)) := by
  apply yields_single (s := .encryptionKey key)
  intro r t issues h
  cases r with
  | ok found => simpa [Finding.issues, Subject.objections] using h
  | error e => simpa [Finding.issues, Subject.failure, lookupIssue] using h

theorem yields_ifNamed {identifier : Option String} {check : String → Inquiry (List Issue)}
    {kind : String → List Finding → Prop} (each : ∀ name, (check name).Yields (kind name)) :
    (match identifier with
      | some name => check name
      | none => pure []).Yields (Survey.IfNamed identifier kind) := by
  cases identifier with
  | none => exact yields_nothing
  | some name => exact each name

theorem yields_ifListed {items : List String} {check : Inquiry (List Issue)}
    {kind : List Finding → Prop} (listed : check.Yields kind) :
    (if items.isEmpty then pure [] else check).Yields (Survey.IfListed items kind) := by
  unfold Survey.IfListed
  split
  · exact yields_nothing
  · exact listed

theorem Machines.pool_yields (region : String) (s : Install.PoolSettings) (path : Path) :
    (Machines.pool region s path).Yields (Survey.Pool region s path) :=
  yields_concat
    (.cons (yields_ifNamed fun name => Machines.instanceType_yields name path)
      (.cons (yields_ifListed (Machines.zones_yields region s.zones path))
        (.cons (yields_ifNamed fun key => Machines.bootVolumeKey_yields key path) .nil)))

theorem Network.network_yields (p : Install.Platform) (path : Path) :
    (Network.network p path).Yields
      (InOrder [Survey.IfNamed p.vpcName (Survey.Vpc p path),
        Survey.IfListed p.subnets (Survey.Subnets p.region p.subnets path)]) :=
  yields_concat
    (.cons (yields_ifNamed fun name => Network.vpc_yields p name path)
      (.cons (yields_ifListed (Network.subnets_yields p.region p.subnets path)) .nil))

theorem yields_ifSet {settings : Option Install.PoolSettings} {region : String} {path : Path}
    (e : Logging.Event) :
    (match settings with
      | some s => report e >>= fun _ => Machines.pool region s path
      | none => pure []).Yields (Survey.IfSet settings region path) := by
  cases settings with
  | none => exact yields_nothing
  | some s => exact (Machines.pool_yields region s path).report e

/-- The lookups for a platform section are those of its findings, and its report is made of their
issues; the rules for the region come first, and those for a network right before the findings on it. -/
theorem Platform.platform_dialogue {regions : Region.Catalog} {domain : String}
    {p : Install.Platform} {path : Path} {t : List Exchange} {issues : List Issue}
    (course : (Platform.platform regions domain p path).Dialogue t issues) :
    ∃ basics resources,
      Survey.Basics domain p path basics ∧
      InOrder
        ([Survey.IfNamed p.vpcName (Survey.Vpc p path),
          Survey.IfListed p.subnets (Survey.Subnets p.region p.subnets path)] ++
        [Survey.IfSet p.defaultMachines p.region (path.child "defaultMachinePlatform")])
        resources ∧
      t = (basics ++ resources).map Finding.exchange ∧
      issues = Install.Rules.region regions p.region (path.child "region") ++
        basics.flatMap Finding.issues ++ Install.Rules.network p path ++
        resources.flatMap Finding.issues := by
  have basicsYield : (concat
      [Platform.dnsInstance domain p.dnsInstanceCrn path,
      Platform.osImage p.osImage p.region path,
      match p.groupName with
        | some name => Platform.resourceGroup name path
        | none => pure []]).Yields (Survey.Basics domain p path) :=
    yields_concat
      (.cons (Platform.dnsInstance_yields domain p.dnsInstanceCrn path)
        (.cons (Platform.osImage_yields p.osImage p.region path)
          (.cons (yields_ifNamed fun name => Platform.resourceGroup_yields name path) .nil)))
  -- The two rules make no lookup, so the dialogue falls apart into basics, network and machines.
  obtain ⟨_, _, _, _, rfl, rfl, ruled, afterRegion⟩ := dialogue_concat_cons.mp course
  obtain ⟨rfl, rfl⟩ := dialogue_pure.mp ruled
  obtain ⟨here, _, first, _, rfl, rfl, now, afterBasics⟩ :=
    (dialogue_concat_append (l := [_, _, _])).mp afterRegion
  obtain ⟨basics, areBasics, rfl, rfl⟩ := basicsYield here first now
  obtain ⟨_, _, _, _, rfl, rfl, ruled, afterRules⟩ := dialogue_concat_cons.mp afterBasics
  obtain ⟨rfl, rfl⟩ := dialogue_pure.mp ruled
  obtain ⟨here, _, first, _, rfl, rfl, now, afterNetwork⟩ := dialogue_concat_cons.mp afterRules
  obtain ⟨network, isNetwork, rfl, rfl⟩ := Network.network_yields p path here first now
  obtain ⟨here, _, first, _, rfl, rfl, now, afterMachines⟩ :=
    dialogue_concat_cons.mp afterNetwork
  obtain ⟨machines, areMachines, rfl, rfl⟩ := yields_ifSet _ here first now
  obtain ⟨rfl, rfl⟩ := dialogue_concat_nil.mp afterMachines
  refine ⟨basics, network ++ machines, areBasics,
    isNetwork.append ⟨[machines], .cons areMachines .nil, by simp⟩, by simp, by simp⟩

namespace Service

theorem controlPlane_yields (region : String) (pool : Option Install.MachinePool) :
    (controlPlane region pool).Yields
      (Survey.IfSet (pool.bind (·.settings)) region controlPlanePath) := by
  unfold controlPlane
  cases pool.bind (·.settings) with
  | none => exact yields_nothing
  | some s => exact (Machines.pool_yields region s controlPlanePath).report _

theorem compute_yields (region : String) (pool : Install.MachinePool) (position : Nat) :
    (compute region pool position).Yields
      (Survey.IfSet pool.settings region (computePath position)) := by
  unfold compute
  cases pool.settings with
  | none => exact yields_nothing
  | some s => exact (Machines.pool_yields region s (computePath position)).report _

/-- The lookups of a whole check are those of its findings, and its report is made of their issues and
of those that the rules find. -/
theorem checks_dialogue {regions : Region.Catalog} {c : Install.Config} {p : Install.Platform}
    {t : List Exchange} {issues : List Issue} (course : (checks regions c p).Dialogue t issues) :
    ∃ basics resources,
      Survey.Basics c.baseDomain p platformPath basics ∧
      Survey.Resources c p platformPath resources ∧
      t = (basics ++ resources).map Finding.exchange ∧
      issues = Install.Rules.region regions p.region (platformPath.child "region") ++
        basics.flatMap Finding.issues ++ Install.Rules.network p platformPath ++
        resources.flatMap Finding.issues := by
  have poolsYield : (concat
      (controlPlane p.region c.controlPlane ::
        c.compute.mapIdx fun position pool => compute p.region pool position)).Yields
      (InOrder (Survey.IfSet (c.controlPlane.bind (·.settings)) p.region controlPlanePath ::
        c.compute.mapIdx fun position pool =>
          Survey.IfSet pool.settings p.region (computePath position))) := by
    apply yields_concat
    refine .cons (controlPlane_yields p.region c.controlPlane) (List.forall₂_iff_get.mpr ⟨?_, ?_⟩)
    · simp
    -- The position of a pool only tells where its issues are reported.
    · intro position _ _
      simpa using compute_yields p.region _ position
  obtain ⟨t, _, issues, rfl, checked, after⟩ := dialogue_bind.mp (dialogue_report_bind.mp course)
  have ended := dialogue_report_bind.mp after
  obtain ⟨rfl, rfl⟩ := dialogue_pure.mp ended
  obtain ⟨here, later, first, others, rfl, rfl, now, soon⟩ := dialogue_concat_cons.mp checked
  obtain ⟨basics, platform, areBasics, isPlatform, rfl, rfl⟩ := Platform.platform_dialogue now
  obtain ⟨pools, arePools, rfl, rfl⟩ := poolsYield later others soon
  refine ⟨basics, platform ++ pools, areBasics, isPlatform.append arePools, by simp, by simp⟩

end Service

end InstallCheck.Check
