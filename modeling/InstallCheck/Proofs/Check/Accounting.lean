import InstallCheck.Cloud.Account
import InstallCheck.Proofs.Check.Survey
import InstallCheck.Proofs.Inquiry.Run
import InstallCheck.Proofs.Install.Rules

/-!
A report accounts for every lookup of the check: a failed one is exactly one issue, an answer is one
issue for each thing in it that breaks the config, and the issues come in the order of the lookups.
-/
namespace InstallCheck.Check

open InstallCheck.Field (Issue Path)

/-- Whether a lookup failed. -/
def Exchange.failed (x : Exchange) : Bool := !x.result.isOk

/-- A report of a check of an install config is made of what the rules find and of the issues of its
findings, which are the lookups with their answers. -/
structure Accounted (regions : Region.Catalog) (c : Install.Config) (p : Install.Platform)
    (answered : List Exchange) (report : List Issue) (basics resources : List Finding) : Prop where
  basicsMade : Survey.Basics c.baseDomain p Service.platformPath basics
  resourcesMade : Survey.Resources c p Service.platformPath resources
  lookups : (basics ++ resources).map Finding.exchange = answered
  inOrder : report =
    Install.Rules.region regions p.region (Service.platformPath.child "region") ++
      basics.flatMap Finding.issues ++ Install.Rules.network p Service.platformPath ++
      resources.flatMap Finding.issues

/-- The books of a report balance: nothing is lost and nothing is counted twice. -/
structure Balanced (regions : Region.Catalog) (c : Install.Config) (p : Install.Platform)
    (answered : List Exchange) (report : List Issue) (basics resources : List Finding) : Prop
    extends Accounted regions c p answered report basics resources where
  count : report.length =
    (Install.Rules.region regions p.region (Service.platformPath.child "region")).length +
      (Install.Rules.network p Service.platformPath).length +
      answered.countP Exchange.failed +
      ((basics ++ resources).map Finding.rejections).sum
  regionRule :
    (Install.Rules.region regions p.region (Service.platformPath.child "region")).length ≤ 1 ∧
    ∀ i ∈ Install.Rules.region regions p.region (Service.platformPath.child "region"),
      i.path = Service.platformPath.child "region"
  networkRule :
    (Install.Rules.network p Service.platformPath).length ≤ 1 ∧
    ∀ i ∈ Install.Rules.network p Service.platformPath, i.kind = .required ∧
      (i.path = Service.platformPath.child "vpc" ∨ i.path = Service.platformPath.child "subnets")
  failure : ∀ f ∈ basics ++ resources, ∀ e, f.result = .error e →
    f.issues = [f.subject.failure f.place e] ∧
      (f.subject.failure f.place e).path = f.place ∧
      (f.subject.failure f.place e).kind = f.subject.failureKind e

namespace Accounted

variable {regions : Region.Catalog} {c : Install.Config} {p : Install.Platform}
  {answered : List Exchange} {report : List Issue} {basics resources : List Finding}

theorem countP_failed (h : Accounted regions c p answered report basics resources) :
    (basics ++ resources).countP Finding.failed = answered.countP Exchange.failed := by
  rw [← h.lookups, List.countP_map]
  rfl

/-- The issues of a report number those of the rules, the failed lookups and the rejections. -/
theorem length_report (h : Accounted regions c p answered report basics resources) :
    report.length =
      (Install.Rules.region regions p.region (Service.platformPath.child "region")).length +
        (Install.Rules.network p Service.platformPath).length +
        answered.countP Exchange.failed +
        ((basics ++ resources).map Finding.rejections).sum := by
  rw [← h.countP_failed, h.inOrder]
  simp only [List.length_append, Finding.length_flatMap_issues, List.countP_append,
    List.map_append, List.sum_append]
  omega

theorem report_ne_nil (h : Accounted regions c p answered report basics resources) {x : Exchange}
    (made : x ∈ answered) (failed : x.failed) : report ≠ [] := by
  have some : 0 < answered.countP Exchange.failed := List.countP_pos_iff.mpr ⟨x, made, failed⟩
  rw [← List.length_pos_iff, h.length_report]
  omega

/-- A check makes at least one lookup, that of the DNS service instance. -/
theorem answered_ne_nil (h : Accounted regions c p answered report basics resources) :
    answered ≠ [] := by
  -- The findings begin with those on the instance, of which there is one in either case.
  obtain ⟨parts, are, joined⟩ := h.basicsMade
  rw [← h.lookups, joined]
  cases are with
  | cons first _ => cases first <;> simp

end Accounted

namespace Sample

/-- A group of machines for which everything is set. -/
def machines : Install.PoolSettings :=
  ⟨some "bx2-4x16", ["us-south-1", "us-south-2"], some ⟨some "root-key"⟩⟩

/-- A platform section in which everything is set. -/
def platform : Install.Platform where
  region := "us-south"
  dnsInstanceCrn := "crn:dns"
  osImage := "rhcos"
  resourceGroup := some "default"
  vpc := some "net"
  vpcResourceGroup := some "shared"
  subnets := ["one", "two"]
  defaultMachines := some machines

/-- An install config with two compute pools, of which one has settings. -/
def config : Install.Config where
  clusterName := "demo"
  baseDomain := "base.domain"
  platform := some platform
  controlPlane := some ⟨"master", some 3, some machines⟩
  compute := [⟨"worker", none, none⟩, ⟨"storage", some 2, some machines⟩]

/-- The contents of an account that has everything the install config asks for. -/
def snapshot : Cloud.Snapshot where
  zones := .ofList [("us-south", ["us-south-2", "us-south-1"])]
  resourceGroups := [⟨"rg-1", "default"⟩, ⟨"rg-2", "shared"⟩]
  dnsInstances := []
  dnsZones := [⟨"zone", "base.domain", "crn:dns", "dns"⟩]
  images := [⟨"image", "rhcos", "us-south"⟩]
  vpcs := [⟨"vpc", "net", "rg-2"⟩]
  subnets := [⟨"one", "first", "us-south-1", "vpc"⟩, ⟨"two", "second", "us-south-2", "vpc"⟩]
  instanceProfiles := [⟨"bx2-4x16", 4, 16⟩]
  encryptionKeys := [⟨"root-key", "root"⟩]

/-- A cloud that answers six lookups and then loses its connection. -/
def weary : Cloud := fun _ earlier q =>
  ⟨if earlier.length < 6 then snapshot.registerZoneOwners.answer q
    else .error (.transport q.operation "connection lost"), ⟨0⟩, false⟩

/-- Checks against that cloud. -/
def service : Service := ⟨weary, .builtIn, .ofSeconds 60⟩

theorem undisturbed_weary {s : Session} : s.Undisturbed weary :=
  Session.undisturbed_of_timely fun _ _ => ⟨rfl, Nat.zero_le _⟩

end Sample

namespace Service

variable {s : Service} {session : Session} {c : Install.Config} {p : Install.Platform}

theorem check_of_platform (given : c.platform = some p) :
    s.check session c =
      (.ok ((checks s.regions c p).run s.cloud session).1,
        ((checks s.regions c p).run s.cloud session).2) := by
  simp [check, given]

@[simp] theorem check_limit : (s.check session c).2.limit = session.limit := by
  unfold check
  split
  · rfl
  · exact Inquiry.run_limit _ _

theorem validate_of_check {report : List Issue} (checked : (s.check session c).1 = .ok report) :
    (s.validate session c).1 = if report = [] then .ok () else .error (.issues report) := by
  unfold validate
  split <;> rename_i outcome <;> rw [outcome] at checked <;> cases checked <;> simp

/-- The report of an undisturbed check accounts for its lookups. -/
theorem check_accounted {limit : Duration} (given : c.platform = some p)
    (calm : (s.check (.start limit false) c).2.Undisturbed s.cloud) :
    ∃ report basics resources,
      (s.check (.start limit false) c).1 = .ok report ∧
      Accounted s.regions c p
        (transcript s.cloud limit [] (s.check (.start limit false) c).2.calls)
        report basics resources := by
  rw [check_of_platform given] at calm ⊢
  obtain ⟨calls, made, course⟩ := Inquiry.run_of_undisturbed _ rfl calm
  obtain ⟨basics, resources, areBasics, areResources, lookups, inOrder⟩ := checks_dialogue course
  refine ⟨_, basics, resources, rfl, areBasics, areResources, ?_, inOrder⟩
  have fresh : (Session.start limit false).calls = [] := rfl
  rw [made, fresh, List.nil_append]
  exact lookups.symm

/-- **No lookup is swallowed or counted twice.** The report of an undisturbed check balances: every
failed lookup and every thing in an answer that breaks the config is one issue, and besides those there
is at most one for the region and one for the network. -/
theorem check_balanced {limit : Duration} (given : c.platform = some p)
    (calm : (s.check (.start limit false) c).2.Undisturbed s.cloud) :
    ∃ report basics resources,
      (s.check (.start limit false) c).1 = .ok report ∧
      Balanced s.regions c p
        (transcript s.cloud limit [] (s.check (.start limit false) c).2.calls)
        report basics resources := by
  obtain ⟨report, basics, resources, checked, accounted⟩ := check_accounted given calm
  have regionRule :
      (Install.Rules.region s.regions p.region (platformPath.child "region")).length ≤ 1 ∧
      ∀ i ∈ Install.Rules.region s.regions p.region (platformPath.child "region"),
        i.path = platformPath.child "region" :=
    ⟨Install.Rules.length_region_le_one, fun i => Install.Rules.path_of_mem_region⟩
  refine ⟨report, basics, resources, checked, accounted, accounted.length_report, regionRule,
    ⟨Install.Rules.length_network_le_one, ?_⟩, ?_⟩
  · intro i member
    rcases Install.Rules.mem_network member with rfl | rfl
    · exact ⟨rfl, .inl rfl⟩
    · exact ⟨rfl, .inr rfl⟩
  · intro f _ e failed
    refine ⟨by simp [Finding.issues, failed], ?_, ?_⟩
    · exact f.subject.path_failure f.place e
    · exact f.subject.kind_failure f.place e

/-- The books balance when the connection is lost after six of eighteen lookups. -/
theorem check_balanced_weary :
    Sample.config.platform = some Sample.platform ∧
    (Sample.service.check (.start (.ofSeconds 60) false) Sample.config).2.Undisturbed
      Sample.service.cloud ∧
    (Sample.service.check (.start (.ofSeconds 60) false) Sample.config).2.calls.length = 18 ∧
    ∃ report basics resources,
      (Sample.service.check (.start (.ofSeconds 60) false) Sample.config).1 = .ok report ∧
      Balanced Sample.service.regions Sample.config Sample.platform
        (transcript Sample.service.cloud (.ofSeconds 60) []
          (Sample.service.check (.start (.ofSeconds 60) false) Sample.config).2.calls)
        report basics resources :=
  ⟨rfl, Sample.undisturbed_weary, by decide +kernel,
    check_balanced (s := Sample.service) rfl Sample.undisturbed_weary⟩

end Service

end InstallCheck.Check
