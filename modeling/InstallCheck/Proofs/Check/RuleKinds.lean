import InstallCheck.Proofs.Check.Places

/-!
Which kinds of issues come from the rules alone. No lookup, whatever comes of it, is ever reported as a
value that is absent or not supported, so what a check reports of these kinds is what the rules for the
region and for the network find on paper, and nothing where they find nothing.
-/
namespace InstallCheck

open InstallCheck.Field (Issue Path)

namespace Check

/-- The kinds of issues that only rules find. -/
def ruleKinds : List Issue.Kind := [.required, .notSupported]

theorem Subject.failureKind_notMem_ruleKinds (e : LookupError) (s : Subject) :
    s.failureKind e ∉ ruleKinds := by
  cases s with
  | dnsInstance | osImage | dnsZone | vpcGroup | vpc | subnet | encryptionKey =>
    simp only [failureKind]
    split <;> decide
  | resourceGroup | subnetZones | machineType | machineZones =>
    simp only [failureKind]
    decide

theorem Subject.kind_of_mem_objections {place : Path} {s : Subject} {answer : s.query.Answer} :
    ∀ i ∈ s.objections place answer, i.kind = .invalid ∨ i.kind = .notFound := by
  unfold objections
  split
  · split <;> simp [Issue.invalid]
  · split <;> simp [Issue.notFound]
  · split <;> simp [Issue.invalid]
  · split <;> simp [Issue.notFound]
  · rw [List.forall_mem_map]
    exact fun zone _ => .inl rfl
  all_goals simp

/-- No finding is an issue of a kind that only rules find. -/
theorem Finding.kind_notMem_ruleKinds {f : Finding} {i : Issue} (member : i ∈ f.issues) :
    i.kind ∉ ruleKinds := by
  unfold issues at member
  split at member
  · rw [List.mem_singleton.mp member, Subject.kind_failure]
    exact f.subject.failureKind_notMem_ruleKinds _
  · rcases Subject.kind_of_mem_objections i member with kind | kind <;> rw [kind] <;> decide

theorem Finding.filter_ruleKinds (fs : List Finding) :
    (fs.flatMap issues).filter (·.kind ∈ ruleKinds) = [] := by
  apply List.filter_eq_nil_iff.mpr
  intro i member
  obtain ⟨f, -, found⟩ := List.mem_flatMap.mp member
  simpa using kind_notMem_ruleKinds found

end Check

namespace Install.Rules

open Check (ruleKinds)

variable {regions : Region.Catalog} {name : String} {p : Platform} {path : Path} {i : Issue}

theorem kind_of_mem_region (member : i ∈ region regions name path) : i.kind ∈ ruleKinds := by
  unfold region at member
  split at member
  · rw [List.mem_singleton.mp member]
    exact List.mem_cons_self
  · split at member
    · cases member
    · rw [List.mem_singleton.mp member]
      exact List.mem_cons_of_mem _ List.mem_cons_self

theorem kind_of_mem_network (member : i ∈ network p path) : i.kind ∈ ruleKinds := by
  rcases mem_network member with rfl | rfl <;> exact List.mem_cons_self

/-- The places of the rules that are part of a check as well. -/
def sharedPlaces (path : Path) : List Path := ["region", "vpc", "subnets"].map path.child

theorem child_mem_sharedPlaces_iff :
    path.child name ∈ sharedPlaces path ↔ name ∈ ["region", "vpc", "subnets"] := by
  simp [sharedPlaces, Path.child_eq_child_iff]

/-- Of what the rules find, the issues at these places are those of the rules for the region and for a
network. -/
theorem filter_platform :
    (platform regions p path).filter (·.path ∈ sharedPlaces path) =
      region regions p.region (path.child "region") ++ network p path := by
  have ofRegion : ∀ i ∈ region regions p.region (path.child "region"),
      i.path ∈ sharedPlaces path := by
    intro i member
    rw [path_of_mem_region member, child_mem_sharedPlaces_iff]
    decide
  have ofNetwork : ∀ i ∈ network p path, i.path ∈ sharedPlaces path := by
    intro i member
    rcases mem_network member with rfl | rfl <;> exact child_mem_sharedPlaces_iff.mpr (by decide)
  have ofImage : ∀ i ∈ osImage p.osImage (path.child "clusterOSImage"),
      i.path ∉ sharedPlaces path := by
    intro i member
    rw [path_of_mem_osImage member, child_mem_sharedPlaces_iff]
    decide
  have ofInstance : ∀ i ∈ dnsInstanceCrn p.dnsInstanceCrn (path.child "cisInstanceCRN"),
      i.path ∉ sharedPlaces path := by
    intro i member
    rw [path_of_mem_dnsInstanceCrn member, child_mem_sharedPlaces_iff]
    decide
  simp only [platform, List.filter_append]
  rw [List.filter_eq_self.mpr (by simpa using ofRegion),
    List.filter_eq_nil_iff.mpr (by simpa using ofImage),
    List.filter_eq_nil_iff.mpr (by simpa using ofInstance),
    List.filter_eq_self.mpr (by simpa using ofNetwork), List.append_nil, List.append_nil]

end Install.Rules

namespace Check.Service

open Install.Rules (sharedPlaces)

variable {s : Service} {session : Session} {c : Install.Config} {p : Install.Platform}
  {regions : Region.Catalog} {t : List Exchange} {report : List Issue}

/-- Whatever answers a check gets, its report has the issues of the rules' own kinds from the rules. -/
theorem filter_ruleKinds_of_dialogue (course : (checks regions c p).Dialogue t report) :
    report.filter (·.kind ∈ ruleKinds) =
      (Install.Rules.platform regions p platformPath).filter (·.path ∈ sharedPlaces platformPath) := by
  obtain ⟨basics, resources, -, -, -, rfl⟩ := checks_dialogue course
  have ofRegion : ∀ i ∈ Install.Rules.region regions p.region (platformPath.child "region"),
      decide (i.kind ∈ ruleKinds) = true :=
    fun i member => decide_eq_true (Install.Rules.kind_of_mem_region member)
  have ofNetwork : ∀ i ∈ Install.Rules.network p platformPath, decide (i.kind ∈ ruleKinds) = true :=
    fun i member => decide_eq_true (Install.Rules.kind_of_mem_network member)
  simp only [List.filter_append, Finding.filter_ruleKinds, List.append_nil]
  rw [List.filter_eq_self.mpr ofRegion, List.filter_eq_self.mpr ofNetwork,
    Install.Rules.filter_platform]

/-- **The rules are reported alike on paper and in a check, and never twice.** The issues of a report
that say of something that it is absent or not supported are those that the rules find at the region, the
private cloud and the subnets, in the same order; whatever comes of the lookups, and so at whatever
moment the run is cancelled. A platform section that keeps the rules has none of these in any report. -/
theorem check_ruleKinds_eq_rules (s : Service) (session : Session) (given : c.platform = some p) :
    (∀ t report, (checks s.regions c p).Dialogue t report →
      report.filter (·.kind ∈ ruleKinds) =
        (Install.Rules.platform s.regions p platformPath).filter
          (·.path ∈ sharedPlaces platformPath)) ∧
    ∃ report, (s.check session c).1 = .ok report ∧
      report.filter (·.kind ∈ ruleKinds) =
        (Install.Rules.platform s.regions p platformPath).filter
          (·.path ∈ sharedPlaces platformPath) ∧
      (Install.Rules.platform s.regions p platformPath = [] →
        ∀ i ∈ report, i.kind ≠ .required ∧ i.kind ≠ .notSupported) := by
  obtain ⟨t, course, -⟩ := Inquiry.exists_dialogue_run s.cloud (checks s.regions c p) session
  refine ⟨fun _ _ => filter_ruleKinds_of_dialogue, _, ?_, filter_ruleKinds_of_dialogue course, ?_⟩
  · rw [check_of_platform given]
  · intro kept i member
    have none := filter_ruleKinds_of_dialogue course
    rw [kept, List.filter_nil, List.filter_eq_nil_iff] at none
    simpa [ruleKinds] using none i member

/-- A platform section for a region that is not in the catalog, with subnets but no private cloud. -/
def halfNetworked : Install.Platform := { Sample.platform with region := "us", vpc := none }

/-- A platform section that keeps the rules. -/
def wellFormed : Install.Platform :=
  { Sample.platform with
    dnsInstanceCrn := "crn:v1:bluemix:public:internet-svcs:global:a/account:instance::" }

/-- What breaks the rules is reported by a check that loses its connection, among other things; what
keeps them is not, not even by a check that is cancelled before it starts. -/
theorem check_ruleKinds_eq_rules_disturbed :
    (∃ report,
      (Sample.service.check (.start (.ofSeconds 60) false)
        { Sample.config with platform := some halfNetworked }).1 = .ok report ∧
      report.length = 14 ∧
      report.filter (·.kind ∈ ruleKinds) =
        [.notSupported (platformPath.child "region") "us" Region.Catalog.builtIn.shortNames,
          .required (platformPath.child "vpc") Install.Rules.networkDetail]) ∧
    Install.Rules.platform .builtIn wellFormed platformPath = [] ∧
    ∃ report,
      (Sample.service.check (.start (.ofSeconds 60) true)
        { Sample.config with platform := some wellFormed }).1 = .ok report ∧
      report.length = 16 ∧ ∀ i ∈ report, i.kind ≠ .required ∧ i.kind ≠ .notSupported := by
  have kept : Install.Rules.platform .builtIn wellFormed platformPath = [] := by decide +kernel
  obtain ⟨-, report, checked, broken, -⟩ := check_ruleKinds_eq_rules Sample.service
    (.start (.ofSeconds 60) false) (c := { Sample.config with platform := some halfNetworked }) (p := halfNetworked) rfl
  obtain ⟨-, other, cancelled, -, none⟩ := check_ruleKinds_eq_rules Sample.service
    (.start (.ofSeconds 60) true) (c := { Sample.config with platform := some wellFormed }) (p := wellFormed) rfl
  refine ⟨⟨report, checked, ?_, ?_⟩, kept, other, cancelled, ?_, none kept⟩
  · have count : (Sample.service.check (.start (.ofSeconds 60) false)
        { Sample.config with platform := some halfNetworked }).1.map List.length = .ok 14 := by
      decide +kernel
    rw [checked] at count
    exact Except.ok.inj count
  · rw [broken]
    decide +kernel
  · have count : (Sample.service.check (.start (.ofSeconds 60) true)
        { Sample.config with platform := some wellFormed }).1.map List.length = .ok 16 := by
      decide +kernel
    rw [cancelled] at count
    exact Except.ok.inj count

end Check.Service

end InstallCheck
