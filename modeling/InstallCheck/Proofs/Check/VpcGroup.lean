import InstallCheck.Proofs.Check.Acceptance
import InstallCheck.Proofs.Check.Places

/-!
When a resource group that limits the search for a private cloud is reported. It is looked up for the
sake of the private cloud, so a group that cannot be found is reported exactly when there is a private
cloud to look for, even if subnets are given without one.
-/
namespace InstallCheck.Check

open Cloud (Query)
open InstallCheck.Field (Issue Path)
open Service (platformPath)

/-- The issues at a place are those of the findings at it. -/
theorem Finding.filter_flatMap_issues (place : Path) (fs : List Finding) :
    (fs.flatMap issues).filter (·.path = place) = (fs.filter (·.place = place)).flatMap issues := by
  induction fs with
  | nil => rfl
  | cons f fs ih =>
    rw [List.flatMap_cons, List.filter_append, ih, List.filter_cons]
    by_cases here : f.place = place
    · have all : f.issues.filter (·.path = place) = f.issues :=
        List.filter_eq_self.mpr fun i member => by simp [path_of_mem_issues member, here]
      simp [here, all]
    · have none : f.issues.filter (·.path = place) = [] :=
        List.filter_eq_nil_iff.mpr fun i member => by simp [path_of_mem_issues member, here]
      simp [here, none]

namespace Accounted

variable {regions : Region.Catalog} {c : Install.Config} {p : Install.Platform}
  {answered : List Exchange} {report : List Issue} {basics resources : List Finding}

abbrev groupPlace : Path := platformPath.child "vpcResourceGroup"

theorem field_of_place (h : Accounted regions c p answered report basics resources) {f : Finding}
    (among : f ∈ basics ++ resources) (there : f.place = groupPlace) :
    f.subject.field = "vpcResourceGroup" :=
  (there ▸ h.asks among : Asks c p _ groupPlace f.subject).field_eq

/-- All that a report has on the group of a private cloud comes from looking it up for the sake of the
private cloud. -/
theorem filter_groupPlace (h : Accounted regions c p answered report basics resources) :
    ∃ network ⊆ resources, Survey.IfNamed p.vpcName (Survey.Vpc p platformPath) network ∧
      report.filter (·.path = groupPlace) =
        (network.filter (·.place = groupPlace)).flatMap Finding.issues := by
  obtain ⟨network, rest, joined, isNetwork, others⟩ := h.resourcesMade.exists_network
  refine ⟨network, joined ▸ List.subset_append_left _ _, isNetwork, ?_⟩
  have noRegion : (Install.Rules.region regions p.region (platformPath.child "region")).filter
      (·.path = groupPlace) = [] := by
    refine List.filter_eq_nil_iff.mpr fun i ruled => ?_
    rw [Install.Rules.path_of_mem_region ruled]
    decide
  have noRule : (Install.Rules.network p platformPath).filter (·.path = groupPlace) = [] := by
    refine List.filter_eq_nil_iff.mpr fun i ruled => ?_
    rcases Install.Rules.mem_network ruled with rfl | rfl <;> decide
  -- The fields that all the other findings are about are different ones.
  have noBasics : basics.filter (·.place = groupPlace) = [] := by
    refine List.filter_eq_nil_iff.mpr fun f basic there => ?_
    have field := h.field_of_place (List.mem_append_left _ basic) (by simpa using there)
    exact absurd (field ▸ (h.basicsMade.asks basic).field_mem) (by decide)
  have noRest : rest.filter (·.place = groupPlace) = [] := by
    refine List.filter_eq_nil_iff.mpr fun f later there => ?_
    have among : f ∈ basics ++ resources :=
      List.mem_append_right _ (joined ▸ List.mem_append_right _ later)
    have field := h.field_of_place among (by simpa using there)
    rcases others f later with subnets | pool
    · exact absurd (field.symm.trans subnets.field_eq) (by decide)
    · exact absurd (field ▸ pool.field_mem) (by decide)
  rw [h.inOrder, joined]
  simp only [List.filter_append, List.flatMap_append, Finding.filter_flatMap_issues, noRegion,
    noRule, noBasics, noRest, List.flatMap_nil, List.nil_append, List.append_nil]

/-- A group that cannot be found is reported once if there is a private cloud to look for, else not at
all. -/
theorem filter_groupPlace_of_error (h : Accounted regions c p answered report basics resources)
    {group : String} {e : LookupError} (limited : p.vpcGroupName = some group)
    (fails : ∀ r, ⟨.resourceGroup group, r⟩ ∈ answered → r = .error e) :
    report.filter (·.path = groupPlace) =
      if p.vpcName.isSome then [lookupIssue groupPlace group e] else [] := by
  obtain ⟨network, within, isNetwork, onlyThese⟩ := h.filter_groupPlace
  rw [onlyThese]
  cases named : p.vpcName with
  | none =>
    rw [named] at isNetwork
    rw [isNetwork]
    rfl
  | some name =>
    rw [named] at isNetwork
    have vpc : Survey.Vpc p platformPath name network := isNetwork
    have made {f : Finding} (among : f ∈ network) : f.exchange ∈ answered :=
      h.lookups ▸ List.mem_map_of_mem (List.mem_append_right _ (within among))
    cases vpc with
    | inGroup r ungrouped => cases ungrouped.symm.trans limited
    | unresolved e' grouped =>
      cases grouped.symm.trans limited
      cases fails _ (made (List.mem_singleton_self _))
      rfl
    | resolved found r grouped =>
      cases grouped.symm.trans limited
      cases fails _ (made List.mem_cons_self)

end Accounted

namespace Service

variable {s : Service} {c : Install.Config} {p : Install.Platform} {limit : Duration}

/-- **When a missing group is reported.** A named group that cannot be looked up is reported once, with
the reason, exactly when a private cloud is named; subnets alone do not make an undisturbed check look
for it. -/
theorem check_reports_vpcGroup_iff {group : String} {e : LookupError} (given : c.platform = some p)
    (limited : p.vpcResourceGroup = some group) (nonempty : group ≠ "")
    (fails : ∀ earlier, (s.cloud limit earlier (.resourceGroup group)).result = .error e)
    (calm : (s.check (.start limit false) c).2.Undisturbed s.cloud) :
    ∃ report, (s.check (.start limit false) c).1 = .ok report ∧
      (report.filter (·.path = platformPath.child "vpcResourceGroup") =
          [if e.isNotFound then .notFound (platformPath.child "vpcResourceGroup") group
            else .internalError (platformPath.child "vpcResourceGroup") e.text] ↔
        ∃ name, p.vpc = some name ∧ name ≠ "") ∧
      ((∀ name, p.vpc = some name → name = "") →
        ∀ i ∈ report, i.path ≠ platformPath.child "vpcResourceGroup") := by
  obtain ⟨report, basics, resources, checked, accounted⟩ := check_accounted given calm
  have reported := accounted.filter_groupPlace_of_error
    (Install.nonEmpty_eq_some_iff.mpr ⟨limited, nonempty⟩) (e := e) fun r made => by
      obtain ⟨before, -, -, answered⟩ := mem_transcript.mp made
      exact answered.trans (fails _)
  have named : p.vpcName.isSome = true ↔ ∃ name, p.vpc = some name ∧ name ≠ "" := by
    simp only [Option.isSome_iff_exists, Install.Platform.vpcName, Install.nonEmpty_eq_some_iff]
  refine ⟨report, checked, ?_, fun unnamed i member there => ?_⟩
  · rw [← named, reported, ← lookupIssue]
    split <;> simp [*]
  · have absent : ¬ p.vpcName.isSome = true := by
      rw [named]
      rintro ⟨name, given, some⟩
      exact some (unnamed name given)
    rw [if_neg absent] at reported
    exact List.filter_eq_nil_iff.mp reported i member (by simpa using there)

/-- The sample account, which has no group of the name that the next install configs give. -/
def sampleAccount : Service := overSnapshot Sample.snapshot .builtIn (fun _ _ => .exact) (.ofSeconds 60)

/-- The sample config with a private cloud in a group that does not exist. -/
def astray : Install.Config :=
  { Sample.config with
    platform := some { Sample.platform with vpcResourceGroup := some "nowhere" } }

/-- The same without the private cloud; the subnets are still there. -/
def astrayAlone : Install.Config :=
  { Sample.config with
    platform := some { Sample.platform with vpc := none, vpcResourceGroup := some "nowhere" } }

theorem undisturbed_sampleAccount (config : Install.Config) :
    (sampleAccount.check (.start (.ofSeconds 60) false) config).2.Undisturbed
      sampleAccount.cloud := by
  refine Cloud.Account.undisturbed_cloudOn rfl fun _ _ => ?_
  rw [check_limit]
  decide

theorem sampleAccount_resourceGroup_nowhere (limit : Duration) (earlier : List Query) :
    (sampleAccount.cloud limit earlier (.resourceGroup "nowhere")).result =
      .error (.notFound "resource group" "nowhere") :=
  (Cloud.Account.result_cloudOn rfl).trans rfl

/-- With the private cloud, the group is reported. -/
theorem check_reports_vpcGroup_astray :
    (sampleAccount.check (.start (.ofSeconds 60) false) astray).2.Undisturbed sampleAccount.cloud ∧
    ∃ report, (sampleAccount.check (.start (.ofSeconds 60) false) astray).1 = .ok report ∧
      report.filter (·.path = platformPath.child "vpcResourceGroup") =
        [.notFound (platformPath.child "vpcResourceGroup") "nowhere"] := by
  obtain ⟨report, checked, reported, -⟩ := check_reports_vpcGroup_iff (c := astray) rfl rfl
    (by decide) (sampleAccount_resourceGroup_nowhere _) (undisturbed_sampleAccount astray)
  exact ⟨undisturbed_sampleAccount astray, report, checked,
    reported.mpr ⟨"net", rfl, by decide⟩⟩

/-- Without it, the network still has subnets and the group still does not exist, and nothing is said
about the group. -/
theorem check_ignores_vpcGroup :
    (astrayAlone.platform.map (·.hasNetwork)) = some true ∧
    (∀ earlier, (sampleAccount.cloud (.ofSeconds 60) earlier (.resourceGroup "nowhere")).result =
      .error (.notFound "resource group" "nowhere")) ∧
    (sampleAccount.check (.start (.ofSeconds 60) false) astrayAlone).2.Undisturbed
      sampleAccount.cloud ∧
    ∃ report, (sampleAccount.check (.start (.ofSeconds 60) false) astrayAlone).1 = .ok report ∧
      ∀ i ∈ report, i.path ≠ platformPath.child "vpcResourceGroup" := by
  refine ⟨by decide, sampleAccount_resourceGroup_nowhere _, undisturbed_sampleAccount _, ?_⟩
  obtain ⟨report, basics, resources, checked, accounted⟩ :=
    check_accounted (c := astrayAlone) rfl (undisturbed_sampleAccount _)
  refine ⟨report, checked, fun i member there => ?_⟩
  have fails : ∀ r, ⟨.resourceGroup "nowhere", r⟩ ∈ transcript sampleAccount.cloud (.ofSeconds 60) []
      (sampleAccount.check (.start (.ofSeconds 60) false) astrayAlone).2.calls →
      r = .error (.notFound "resource group" "nowhere") := by
    intro r made
    obtain ⟨before, -, -, answered⟩ := mem_transcript.mp made
    exact answered.trans (sampleAccount_resourceGroup_nowhere _ _)
  have reported := accounted.filter_groupPlace_of_error rfl fails
  exact List.filter_eq_nil_iff.mp reported i member (by simpa using there)

end Service

end InstallCheck.Check
