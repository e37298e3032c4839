import InstallCheck.Proofs.Check.Acceptance
import InstallCheck.Proofs.Check.Places

/-!
What the rules find in a platform section on paper is found again when it is checked against an
account: the rules for the region and for the network are part of the check, and an image without a
name or a malformed resource name is found missing, unless the account has a row under just that text.
-/
namespace InstallCheck

/-- No row of a snapshot is found under an image name or a resource name that the rules refuse. -/
structure Cloud.Snapshot.BarsRefused (s : Snapshot) (c : Install.Config) (p : Install.Platform) :
    Prop where
  osImage : p.osImage = "" → ∀ i ∈ s.images, i.region = p.region → i.name ≠ ""
  dnsZone : (Crn.parse p.dnsInstanceCrn).isOk = false → ∀ z,
    s.dnsZones.find? (fun z => z.instanceCrn = p.dnsInstanceCrn && z.name = c.baseDomain) = some z →
      z.id = ""

namespace Check

open Cloud (Account Snapshot Query Clock)
open InstallCheck.Field (Issue Path)
open Service (platformPath)

/-- Wherever there is an issue of some list, there is one of a report. -/
def Repeats (issues report : List Issue) : Prop := ∀ i ∈ issues, ∃ j ∈ report, j.path = i.path

section Answers

variable {s : Snapshot}

theorem exists_answer_image_iff {name region : String} :
    (∃ i, s.registerZoneOwners.answer (.image name region) = .ok i) ↔
      ∃ i ∈ s.images, i.name = name ∧ i.region = region :=
  (@Platform.osImage_clean_iff _ platformPath _ _).symm.trans Platform.osImage_clean_iff_row

theorem answer_zoneId_eq_ok_iff {crn domain id : String} :
    s.registerZoneOwners.answer (.zoneId crn domain) = .ok id ↔
      ∃ z, s.dnsZones.find? (fun z => z.instanceCrn = crn && z.name = domain) = some z ∧ z.id = id :=
  Snapshot.foundOr_eq_ok.trans Option.map_eq_some_iff

end Answers

theorem Finding.exists_issue_of_error {f : Finding} {e : LookupError} (failed : f.result = .error e) :
    ∃ i ∈ f.issues, i.path = f.place := by
  rw [issues, failed]
  exact ⟨_, List.mem_singleton_self _, f.subject.path_failure f.place e⟩

theorem Asks.osImage_of_field {c : Install.Config} {p : Install.Platform} {fs : List Finding}
    {place : Path} {s : Subject} (asks : Asks c p fs place s) (field : s.field = "clusterOSImage") :
    s = .osImage p.osImage p.region := by
  cases asks with
  | basic asks => cases asks <;> simp [Subject.field] at field ⊢
  | vpc asks => cases asks <;> simp [Subject.field] at field
  | subnets asks => cases asks <;> simp [Subject.field] at field
  | pool asks => cases asks <;> simp [Subject.field] at field

theorem Asks.dns_of_field {c : Install.Config} {p : Install.Platform} {fs : List Finding}
    {place : Path} {s : Subject} (asks : Asks c p fs place s) (field : s.field = "cisInstanceCRN") :
    s = .dnsInstance p.dnsInstanceCrn ∨ s = .dnsZone p.dnsInstanceCrn c.baseDomain := by
  cases asks with
  | basic asks => cases asks <;> simp [Subject.field] at field ⊢
  | vpc asks => cases asks <;> simp [Subject.field] at field
  | subnets asks => cases asks <;> simp [Subject.field] at field
  | pool asks => cases asks <;> simp [Subject.field] at field

namespace Accounted

variable {regions : Region.Catalog} {c : Install.Config} {p : Install.Platform}
  {answered : List Exchange} {report : List Issue} {basics resources : List Finding} {s : Snapshot}

section Found

variable (h : Accounted regions c p answered report basics resources)
  (outcomes : ∀ f ∈ basics, (∃ e, f.result = .error e) ∨
    f.result = s.registerZoneOwners.answer f.subject.query)

include h

theorem exists_issue_of_finding {f : Finding} (among : f ∈ basics)
    (found : ∃ i ∈ f.issues, i.path = f.place) : ∃ i ∈ report, i.path = f.place := by
  obtain ⟨i, isIssue, there⟩ := found
  exact ⟨i, h.mem_report_iff.mpr (.inr (.inr ⟨f, List.mem_append_left _ among, isIssue⟩)), there⟩

include outcomes

theorem exists_issue_at_osImage
    (missing : ¬ ∃ i ∈ s.images, i.name = p.osImage ∧ i.region = p.region) :
    ∃ i ∈ report, i.path = platformPath.child "clusterOSImage" := by
  obtain ⟨_, ⟨r, rfl⟩, within⟩ := h.basicsMade.exists_part_of_kind
    (List.mem_cons_of_mem _ List.mem_cons_self)
  have among := within (List.mem_singleton_self _)
  refine h.exists_issue_of_finding among ?_
  rcases outcomes _ among with ⟨e, failed⟩ | answer
  · exact Finding.exists_issue_of_error failed
  · cases r with
    | error e => exact Finding.exists_issue_of_error rfl
    | ok found => exact absurd (exists_answer_image_iff.mp ⟨found, answer.symm⟩) missing

/-- A report has an issue at a resource name under which the account has no zone of the base domain. -/
theorem exists_issue_at_dnsInstance
    (missing : ∀ z, s.dnsZones.find? (fun z =>
      z.instanceCrn = p.dnsInstanceCrn && z.name = c.baseDomain) = some z → z.id = "") :
    ∃ i ∈ report, i.path = platformPath.child "cisInstanceCRN" := by
  obtain ⟨part, findings, within⟩ := h.basicsMade.exists_part_of_kind List.mem_cons_self
  cases findings with
  | unresolved e =>
    have among := within (List.mem_singleton_self _)
    exact h.exists_issue_of_finding among (Finding.exists_issue_of_error rfl)
  | resolved found zone =>
    have among := within (List.mem_cons_of_mem _ (List.mem_singleton_self _))
    refine h.exists_issue_of_finding among ?_
    cases zone with
    | error e => exact Finding.exists_issue_of_error rfl
    | ok id =>
      have absent : id = "" := by
        rcases outcomes _ among with ⟨e, failed⟩ | answer
        · cases failed
        · obtain ⟨z, first, rfl⟩ := answer_zoneId_eq_ok_iff.mp answer.symm
          exact missing z first
      refine ⟨.invalid (platformPath.child "cisInstanceCRN") p.dnsInstanceCrn
        (Subject.noZone c.baseDomain), ?_, rfl⟩
      simp [Finding.issues, Subject.objections, absent]

/-- What the rules find is found again unless the account has a row under a refused text. -/
theorem repeats_of_barsRefused (bars : s.BarsRefused c p) :
    Repeats (Install.Rules.platform regions p platformPath) report := by
  intro i member
  simp only [Install.Rules.platform, List.mem_append] at member
  rcases member with ((region | image) | instances) | network
  · exact ⟨i, h.mem_report_iff.mpr (.inl region), rfl⟩
  · rw [Install.Rules.path_of_mem_osImage image]
    have nameless : p.osImage = "" := by
      by_contra named
      rw [Install.Rules.osImage_eq_nil_iff.mpr named] at image
      cases image
    refine h.exists_issue_at_osImage outcomes ?_
    rintro ⟨row, listed, named, inRegion⟩
    exact bars.osImage nameless row listed inRegion (named.trans nameless)
  · rw [Install.Rules.path_of_mem_dnsInstanceCrn instances]
    have malformed : (Crn.parse p.dnsInstanceCrn).isOk = false := by
      by_contra wellFormed
      rw [Install.Rules.dnsInstanceCrn_eq_nil_iff.mpr (by simpa using wellFormed)] at instances
      cases instances
    exact h.exists_issue_at_dnsInstance outcomes (bars.dnsZone malformed)
  · exact ⟨i, h.mem_report_iff.mpr (.inr (.inl network)), rfl⟩

end Found

/-- If what the rules find is found again by lookups that are all answered, then the account has no row
under a refused text. -/
theorem barsRefused_of_repeats (h : Accounted regions c p answered report basics resources)
    (answers : ∀ f ∈ basics ++ resources, f.result = s.registerZoneOwners.answer f.subject.query)
    (repeats : Repeats (Install.Rules.platform regions p platformPath) report) :
    s.BarsRefused c p := by
  constructor
  case osImage =>
    intro nameless row listed inRegion named
    obtain ⟨j, reported, there⟩ := repeats
      (.required (platformPath.child "clusterOSImage") "clusterOSImage must be specified")
      (by simp [Install.Rules.platform, Install.Rules.osImage, nameless])
    obtain ⟨⟨place, subject, result⟩, among, found, -, field⟩ :=
      h.exists_finding_of_path reported there (by decide)
    obtain rfl := (h.asks among).osImage_of_field field
    -- The image is found under the empty text, and then nothing is reported at it.
    obtain ⟨image, answer⟩ :=
      exists_answer_image_iff.mpr ⟨row, listed, named.trans nameless.symm, inRegion⟩
    have answered : result = .ok image := (answers _ among).trans answer
    rw [Finding.issues, answered] at found
    cases found
  case dnsZone =>
    intro malformed z first
    by_contra present
    have refused : Install.Rules.dnsInstanceCrn p.dnsInstanceCrn
        (platformPath.child "cisInstanceCRN") ≠ [] := by
      rw [Ne, Install.Rules.dnsInstanceCrn_eq_nil_iff, malformed]
      decide
    obtain ⟨i, isIssue⟩ := List.exists_mem_of_ne_nil _ refused
    obtain ⟨j, reported, there⟩ := repeats i
      (by simp only [Install.Rules.platform, List.mem_append]; exact .inl (.inr isIssue))
    rw [Install.Rules.path_of_mem_dnsInstanceCrn isIssue] at there
    obtain ⟨⟨place, subject, result⟩, among, found, -, field⟩ :=
      h.exists_finding_of_path reported there (by decide)
    -- The zone registers its instance, so both lookups have an answer that nothing is wrong with.
    obtain ⟨⟨instances, owner⟩, id, zone, nonempty⟩ := Platform.dnsInstance_clean_iff.mp
      ((@Platform.dnsInstance_clean_iff_row _ platformPath _ _).mpr ⟨z, first, present⟩)
    rcases (h.asks among).dns_of_field field with rfl | rfl
    · have answered : result = .ok instances := (answers _ among).trans owner
      rw [Finding.issues, answered] at found
      cases found
    · have answered : result = .ok id := (answers _ among).trans zone
      simp [Finding.issues, answered, Subject.objections, nonempty] at found

end Accounted

namespace Service

variable {s : Snapshot} {regions : Region.Catalog} {clock : List Query → Query → Clock}
  {limit : Duration} {c : Install.Config} {p : Install.Platform}

/-- **Checks against an account repeat the rules.** Unless the snapshot has a row under an image name or
a resource name that the rules refuse, every place at which the rules find something has an issue in the
report of any check against its account. An undisturbed check finds all these places again only then. -/
theorem check_repeats_rules_iff (given : c.platform = some p) :
    (∀ session, ∃ report,
      ((overSnapshot s regions clock limit).check session c).1 = .ok report ∧
      (s.BarsRefused c p → Repeats (Install.Rules.platform regions p platformPath) report)) ∧
    (((overSnapshot s regions clock limit).check (.start limit false) c).2.Undisturbed
        (overSnapshot s regions clock limit).cloud →
      ∃ report, ((overSnapshot s regions clock limit).check (.start limit false) c).1 = .ok report ∧
        (Repeats (Install.Rules.platform regions p platformPath) report ↔ s.BarsRefused c p)) := by
  have fromRows (session : Session) (earlier : List Query) (q : Query) :
      ((overSnapshot s regions clock limit).cloud session.limit earlier q).result =
        s.registerZoneOwners.answer q := Account.result_cloudOn rfl
  have repeated (session : Session) : ∃ report,
      ((overSnapshot s regions clock limit).check session c).1 = .ok report ∧
      (s.BarsRefused c p → Repeats (Install.Rules.platform regions p platformPath) report) := by
    obtain ⟨answered, report, basics, resources, checked, accounted, outcomes⟩ :=
      exists_accounted (s := overSnapshot s regions clock limit) session given
    refine ⟨report, checked, accounted.repeats_of_barsRefused fun f among => ?_⟩
    have answer : f.exchange ∈ answered :=
      accounted.lookups ▸ List.mem_map_of_mem (List.mem_append_left _ among)
    rcases outcomes _ answer with cut | late | ⟨earlier, later, -, fromCloud⟩
    · exact .inl ⟨_, cut⟩
    · exact .inl ⟨_, late⟩
    · exact .inr (fromCloud.trans (fromRows session earlier _))
  refine ⟨repeated, fun calm => ?_⟩
  obtain ⟨report, checked, again⟩ := repeated (.start limit false)
  obtain ⟨_, basics, resources, same, accounted⟩ := check_accounted given calm
  cases checked.symm.trans same
  refine ⟨report, checked, ?_, again⟩
  apply accounted.barsRefused_of_repeats
  intro f among
  obtain ⟨earlier, later, -, fromCloud⟩ :=
    mem_transcript.mp (accounted.lookups ▸ List.mem_map_of_mem among)
  exact fromCloud.trans (fromRows (.start limit false) _ _)

/-- A platform section that breaks the rules for its region, its image and its resource name. -/
def unfinished : Install.Platform :=
  { Sample.platform with region := "us", dnsInstanceCrn := "crn:v1", osImage := "" }

/-- The sample account has nothing under these texts, so all three places have issues in any check. -/
theorem check_repeats_rules_unfinished :
    Sample.snapshot.BarsRefused { Sample.config with platform := some unfinished } unfinished ∧
    (Install.Rules.platform .builtIn unfinished platformPath).map (·.path) =
      ["region", "clusterOSImage", "cisInstanceCRN"].map platformPath.child ∧
    ∀ session, ∃ report,
      ((overSnapshot Sample.snapshot .builtIn (fun _ _ => .exact) (.ofSeconds 60)).check session
        { Sample.config with platform := some unfinished }).1 = .ok report ∧
      Repeats (Install.Rules.platform .builtIn unfinished platformPath) report := by
  have bars :
      Sample.snapshot.BarsRefused { Sample.config with platform := some unfinished } unfinished := by
    constructor
    case osImage => exact fun _ => by decide
    case dnsZone =>
      intro _ z first
      have listed := List.mem_of_find?_eq_some first
      have answers := List.find?_some first
      rw [List.mem_singleton.mp listed] at answers
      exact absurd answers (by decide)
  refine ⟨bars, by decide +kernel, fun session => ?_⟩
  obtain ⟨report, checked, again⟩ := (check_repeats_rules_iff
    (c := { Sample.config with platform := some unfinished }) (p := unfinished) rfl).1 session
  exact ⟨report, checked, again bars⟩

/-- The sample account has a zone under a text that is no resource name: the rules refuse the install
config, and the check of it reports nothing. -/
theorem check_accepts_malformed :
    Sample.config.platform = some Sample.platform ∧
    Install.Rules.platform .builtIn Sample.platform platformPath =
      [.invalid (platformPath.child "cisInstanceCRN") "crn:dns"
        "cisInstanceCRN is not a valid IBM CRN"] ∧
    ((overSnapshot Sample.snapshot .builtIn (fun _ _ => .exact) (.ofSeconds 60)).check
      (.start (.ofSeconds 60) false) Sample.config).1 = .ok [] ∧
    ¬ Repeats (Install.Rules.platform .builtIn Sample.platform platformPath) [] := by
  have calm : ((overSnapshot Sample.snapshot .builtIn (fun _ _ => .exact) (.ofSeconds 60)).check
      (.start (.ofSeconds 60) false) Sample.config).2.Undisturbed
      (overSnapshot Sample.snapshot .builtIn (fun _ _ => .exact) (.ofSeconds 60)).cloud := by
    refine Account.undisturbed_cloudOn rfl fun _ _ => ?_
    rw [check_limit]
    decide
  have refused : Install.Rules.platform .builtIn Sample.platform platformPath =
      [.invalid (platformPath.child "cisInstanceCRN") "crn:dns"
        "cisInstanceCRN is not a valid IBM CRN"] := by decide +kernel
  have clean := checks_clean_iff_satisfies.mpr Sample.snapshot_satisfies_config
  refine ⟨rfl, refused, ?_, ?_⟩
  · rw [check_overSnapshot rfl calm, show (checks _ _ _).value _ = [] from clean]
  · rw [refused]
    intro repeats
    obtain ⟨_, none, -⟩ := repeats _ List.mem_cons_self
    cases none

end Service

end Check

end InstallCheck
