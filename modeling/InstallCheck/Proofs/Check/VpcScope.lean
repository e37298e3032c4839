import InstallCheck.Proofs.Check.Places
import InstallCheck.Proofs.Check.Verdict
import InstallCheck.Proofs.Cloud.Account

/-!
In which resource group a private cloud is looked for. The group that an install config names is
found by its id or name, and its id is then matched once more against the ids and names of all
groups, so that a group listed earlier whose name is that id takes its place.
-/
namespace InstallCheck

/-- Some virtual private cloud that answers to a text lies in the group with an id. -/
def Cloud.Snapshot.HasVpc (s : Snapshot) (idOrName groupId : String) : Prop :=
  ∃ v ∈ s.vpcs, (v.id = idOrName ∨ v.name = idOrName) ∧ v.resourceGroupId = groupId

namespace Check.Network

open Cloud (Account Query Clock ResourceGroup Snapshot)
open Inquiry
open InstallCheck.Field (Issue Path)

variable {answers : (q : Query) → q.Result} {p : Install.Platform} {path : Path} {name : String}

/-- A report has no issue at a place. -/
def NothingAt (place : Path) (report : List Issue) : Prop := ∀ i ∈ report, i.path ≠ place

/-- Nothing is reported at a private cloud whose group is found exactly when the lookup in the id of
that group succeeds. -/
theorem network_vpc_clear_iff {group : String} {g : ResourceGroup} (named : p.vpcName = some name)
    (limited : p.vpcGroupName = some group) (resolved : answers (.resourceGroup group) = .ok g) :
    NothingAt (path.child "vpc") ((network p path).value answers) ↔
      ∃ v, answers (.vpc name (some g.id)) = .ok v := by
  have report : (network p path).value answers =
      (vpcWithin (some g.id) name path).value answers ++
        (if p.subnets.isEmpty then pure [] else subnets p.region p.subnets path).value answers := by
    simp only [network, value_concat, List.flatMap_cons, List.flatMap_nil, List.append_nil, named,
      vpc, limited]
    rw [value_query_bind, resolved]
  -- All issues of the first half are at the private cloud, and none of the second half is.
  rw [report, ← vpcWithin_clean_iff, Clean, List.eq_nil_iff_forall_not_mem, NothingAt]
  constructor
  · intro clear i member
    have atVpc := (vpcWithin_yields _ _ _).path_of_mem_value (fun _ => Survey.Single.place) member
    exact clear i (List.mem_append_left _ member) atVpc
  · intro clean i member atVpc
    rcases List.mem_append.mp member with here | there
    · exact clean i here
    · split at there
      · cases there
      · have atSubnets :=
          (subnets_yields _ _ _).path_of_mem_value (fun _ => Survey.Subnets.place) there
        have sameField := (Field.Path.child_eq_child_iff.mp (atVpc.symm.trans atSubnets)).2
        exact absurd sameField (by decide)

/-- The check of a network against the account that a snapshot was taken of, from its beginning: the
report and the state of the run. -/
def networkOver (s : Snapshot) (clock : List Query → Query → Clock) (limit : Duration)
    (p : Install.Platform) (path : Path) : List Issue × Session :=
  (network p path).run ((Account.ofSnapshot s).cloudOn clock) (.start limit false)

/-- **Where a scoped private cloud is looked for.** When the named group resolves to a group, the
search is limited to the first group that answers to the id of that one. So nothing is reported at a
private cloud that lies in the resolved group, and only then, exactly when both groups hold a private
cloud of the name or neither does, as they do when they have the same id. -/
theorem network_scoped_vpc_iff {s : Snapshot} {clock : List Query → Query → Clock}
    {limit : Duration} {group : String} {g : ResourceGroup}
    (named : p.vpc = some name) (nonempty : name ≠ "")
    (limited : p.vpcResourceGroup = some group) (groupNonempty : group ≠ "")
    (resolved : (Account.ofSnapshot s).answer (.resourceGroup group) = .ok g)
    (calm : (networkOver s clock limit p path).2.Undisturbed
      ((Account.ofSnapshot s).cloudOn clock)) :
    ∃ h, s.resourceGroups.find? (·.answersTo g.id) = some h ∧
      (NothingAt (path.child "vpc") (networkOver s clock limit p path).1 ↔ s.HasVpc name h.id) ∧
      ((NothingAt (path.child "vpc") (networkOver s clock limit p path).1 ↔ s.HasVpc name g.id) ↔
        (s.HasVpc name h.id ↔ s.HasVpc name g.id)) := by
  -- The group has its own id, so some group answers to that id when the account looks it up again.
  obtain ⟨h, first⟩ := Snapshot.exists_group?_id (Snapshot.foundOr_eq_ok.mp resolved)
  have found : (networkOver s clock limit p path).1 =
      (network p path).value (Account.ofSnapshot s).answer :=
    Inquiry.run_eq_value _ (fun _ _ => Account.result_cloudOn rfl) rfl calm
  have inGroup : (Account.ofSnapshot s).state.groupId g.id = h.id :=
    Snapshot.groupId_of_group? first
  have clear : NothingAt (path.child "vpc") (networkOver s clock limit p path).1 ↔
      s.HasVpc name h.id := by
    rw [found, network_vpc_clear_iff (Install.nonEmpty_eq_some_iff.mpr ⟨named, nonempty⟩)
      (Install.nonEmpty_eq_some_iff.mpr ⟨limited, groupNonempty⟩) resolved]
    refine Snapshot.exists_answer_vpc_iff.trans ?_
    simp only [Option.some.injEq, forall_eq', inGroup]
    rfl
  exact ⟨h, first, clear, by rw [clear]⟩

/-- No group of the sample has the id of another one as its name, so the private cloud is found. -/
theorem network_scoped_vpc_sample :
    Sample.platform.vpc = some "net" ∧ Sample.platform.vpcResourceGroup = some "shared" ∧
    (Account.ofSnapshot Sample.snapshot).answer (.resourceGroup "shared") =
      .ok ⟨"rg-2", "shared"⟩ ∧
    NothingAt (Service.platformPath.child "vpc")
      (networkOver Sample.snapshot (fun _ _ => .exact) (.ofSeconds 60) Sample.platform
        Service.platformPath).1 := by
  have calm : (networkOver Sample.snapshot (fun _ _ => .exact) (.ofSeconds 60) Sample.platform
      Service.platformPath).2.Undisturbed
      ((Account.ofSnapshot Sample.snapshot).cloudOn fun _ _ => .exact) := by
    refine Account.undisturbed_cloudOn rfl fun _ _ => ?_
    rw [networkOver, run_limit]
    decide
  obtain ⟨h, first, clear, -⟩ :=
    network_scoped_vpc_iff (g := ⟨"rg-2", "shared"⟩) rfl (by decide) rfl (by decide) rfl calm
  refine ⟨rfl, rfl, rfl, clear.mpr ⟨⟨"vpc", "net", "rg-2"⟩, by decide, by decide, ?_⟩⟩
  cases first
  rfl

/-- Two groups, of which the first has the id of the second as its name, and a private cloud in the
second. -/
def shadowing : Snapshot :=
  { (∅ : Snapshot) with
    resourceGroups := [⟨"rg-a", "rg-b"⟩, ⟨"rg-b", "prod"⟩]
    vpcs := [⟨"vpc-1", "vpc", "rg-b"⟩] }

/-- A platform section that names this private cloud and its group. -/
def shadowed : Install.Platform where
  region := "us-south"
  dnsInstanceCrn := "crn:dns"
  osImage := "rhcos"
  resourceGroup := none
  vpc := some "vpc"
  vpcResourceGroup := some "prod"
  subnets := []
  defaultMachines := none

/-- The group resolves and holds the private cloud, which is reported as missing all the same. -/
theorem network_shadowed_vpc_missing :
    shadowed.vpc = some "vpc" ∧ shadowed.vpcResourceGroup = some "prod" ∧
    (Account.ofSnapshot shadowing).answer (.resourceGroup "prod") = .ok ⟨"rg-b", "prod"⟩ ∧
    (networkOver shadowing (fun _ _ => .exact) (.ofSeconds 60) shadowed
      Service.platformPath).2.Undisturbed
      ((Account.ofSnapshot shadowing).cloudOn fun _ _ => .exact) ∧
    ¬ (NothingAt (Service.platformPath.child "vpc")
        (networkOver shadowing (fun _ _ => .exact) (.ofSeconds 60) shadowed
          Service.platformPath).1 ↔
      shadowing.HasVpc "vpc" "rg-b") := by
  have missing : (networkOver shadowing (fun _ _ => .exact) (.ofSeconds 60) shadowed
      Service.platformPath).1 = [.notFound (Service.platformPath.child "vpc") "vpc"] := by
    decide +kernel
  refine ⟨rfl, rfl, rfl, ?_, fun same => ?_⟩
  · refine Account.undisturbed_cloudOn rfl fun _ _ => ?_
    rw [networkOver, run_limit]
    decide
  · have clear := same.mpr ⟨⟨"vpc-1", "vpc", "rg-b"⟩, by decide, by decide, rfl⟩
    rw [missing] at clear
    exact clear _ List.mem_cons_self rfl

end Check.Network

end InstallCheck
