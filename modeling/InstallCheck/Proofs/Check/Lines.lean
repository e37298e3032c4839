import InstallCheck.Proofs.Check.Acceptance
import InstallCheck.Proofs.Check.Places
import InstallCheck.Proofs.Field.Lines

/-!
When a report shows one defect per line. The places of issues never break a line, but values of the
install config and messages of the cloud are shown as they are: the lines of a report are its issues
exactly when none of what it shows has a line break.
-/
namespace InstallCheck

open Text (SingleLine singleLine_append singleLine_intercalate)

namespace Field.Issue

/-- What an issue shows besides its place has no line break. -/
def Plain (i : Issue) : Prop := (i.kind.showsValue = true → SingleLine i.value) ∧ SingleLine i.detail

variable {path : Path} {value detail : String}

theorem plain_required (single : SingleLine detail) : (required path detail).Plain :=
  ⟨fun _ => (by decide : SingleLine ""), single⟩

theorem plain_invalid (shown : SingleLine value) (single : SingleLine detail) :
    (invalid path value detail).Plain := ⟨fun _ => shown, single⟩

theorem plain_notFound (shown : SingleLine value) : (notFound path value).Plain :=
  ⟨fun _ => shown, (by decide : SingleLine "")⟩

theorem plain_internalError (single : SingleLine detail) : (internalError path detail).Plain :=
  ⟨fun _ => (by decide : SingleLine ""), single⟩

theorem plain_notSupported {supported : List String} (shown : SingleLine value)
    (single : ∀ name ∈ supported, SingleLine name) : (notSupported path value supported).Plain := by
  have quote : SingleLine "\"" := by decide
  have listed : SingleLine (", ".intercalate (supported.map fun s => "\"" ++ s ++ "\"")) := by
    rw [singleLine_intercalate (by decide), List.forall_mem_map]
    intro name member
    exact singleLine_append.mpr ⟨singleLine_append.mpr ⟨quote, single name member⟩, quote⟩
  exact ⟨fun _ => shown, singleLine_append.mpr ⟨by decide, listed⟩⟩

end Field.Issue

/-- The texts of a group of machines that a report may quote. -/
def Install.PoolSettings.quotable (s : PoolSettings) : List String :=
  s.typeName.toList ++ s.zones ++ s.keyName.toList

/-- The texts of a platform section, besides those of its machines, that a report may quote. -/
def Install.Platform.quotable (p : Platform) : List String :=
  [p.region, p.dnsInstanceCrn, p.osImage] ++ p.groupName.toList ++ p.vpcGroupName.toList ++
    p.vpcName.toList ++ p.subnets

namespace Check

open Cloud (Query)
open InstallCheck.Field (Issue Path)
open Service (platformPath computePath platformFields poolPaths reportPlaces)

section Places

variable {c : Install.Config} {path : Path}

theorem singleLine_platformPath : SingleLine platformPath.text := by decide

theorem singleLine_of_mem_poolPaths (stands : path ∈ poolPaths c) : SingleLine path.text := by
  simp only [poolPaths, List.mem_cons, List.mem_map] at stands
  rcases stands with rfl | rfl | ⟨position, -, rfl⟩
  · decide
  · decide
  · simp only [computePath, Field.Path.singleLine_child, Field.Path.singleLine_index,
      Field.Path.singleLine_top]
    decide

/-- The places of a report are fixed names and positions. -/
theorem singleLine_of_mem_reportPlaces (reported : path ∈ reportPlaces c) : SingleLine path.text := by
  rcases List.mem_append.mp reported with ofPlatform | ofPool
  · obtain ⟨name, field, rfl⟩ := List.mem_map.mp ofPlatform
    have fields : ∀ name ∈ platformFields, SingleLine name := by decide
    exact Field.Path.singleLine_child.mpr ⟨singleLine_platformPath, fields name field⟩
  · obtain ⟨pool, stands, of⟩ := List.mem_flatMap.mp ofPool
    have outer := singleLine_of_mem_poolPaths stands
    simp only [List.mem_cons, List.not_mem_nil, or_false] at of
    rcases of with rfl | rfl | rfl
    · exact Field.Path.singleLine_child.mpr ⟨outer, by decide⟩
    · exact Field.Path.singleLine_child.mpr ⟨outer, by decide⟩
    · exact Field.Path.singleLine_child.mpr
        ⟨Field.Path.singleLine_child.mpr ⟨outer, by decide⟩, by decide⟩

end Places

/-- The names of zones in an answer, which a report may quote. -/
def zoneNames : (q : Query) → q.Answer → List String
  | .vpcZones _, zones => zones
  | .resourceGroup _, _ | .resourceGroups, _ | .dnsInstance _, _ | .zoneId .., _ | .dnsZones, _
  | .image .., _ | .vpc .., _ | .subnet _, _ | .instanceProfiles, _ | .encryptionKey _, _ => []

/-- What a report may quote of a result has no line break: why a lookup failed, and names of zones. -/
def PlainResult {q : Query} : q.Result → Prop
  | .error e => SingleLine e.text
  | .ok answer => ∀ zone ∈ zoneNames q answer, SingleLine zone

instance {q : Query} (r : q.Result) : Decidable (PlainResult r) :=
  match r with
  | .error e => inferInstanceAs (Decidable (SingleLine e.text))
  | .ok answer => inferInstanceAs (Decidable (∀ zone ∈ zoneNames q answer, SingleLine zone))

/-- The texts that the issues of a subject quote. -/
@[simp] def Subject.quotes : Subject → List String
  | dnsInstance crn => [crn]
  | dnsZone crn domain => [crn, domain]
  | osImage name _ | resourceGroup name | vpcGroup name | vpc name _ | machineType name => [name]
  | subnetZones _ => []
  | subnet id zones => id :: zones.getD []
  | machineZones _ declared => declared
  | encryptionKey id => [id]

theorem singleLine_notAmong {thing : String} {zones : List String} (named : SingleLine thing)
    (single : ∀ zone ∈ zones, SingleLine zone) : SingleLine (Subject.notAmong thing zones) := by
  have sorted : ∀ zone ∈ zones.mergeSort (· ≤ ·), SingleLine zone := by
    simpa only [List.mem_mergeSort] using single
  have between : SingleLine (" ".intercalate (zones.mergeSort (· ≤ ·))) :=
    (singleLine_intercalate (by decide)).mpr sorted
  simp only [Subject.notAmong, zoneList, singleLine_append, named, between]
  decide

theorem singleLine_noZone {domain : String} (single : SingleLine domain) :
    SingleLine (Subject.noZone domain) := by
  unfold Subject.noZone
  rw [singleLine_append]
  exact ⟨by decide, single⟩

theorem plain_ite {decided : Bool} {i j : Issue} (first : i.Plain) (second : j.Plain) :
    (if decided then i else j).Plain := by
  cases decided
  · exact second
  · exact first

theorem Subject.plain_failure {place : Path} {s : Subject} {e : LookupError}
    (quotes : ∀ t ∈ s.quotes, SingleLine t) (told : SingleLine e.text) :
    (s.failure place e).Plain := by
  have undecided : (Issue.internalError place e.text).Plain := Issue.plain_internalError told
  cases s with
  | dnsInstance crn => exact plain_ite undecided (Issue.plain_notFound (quotes _ (by simp)))
  | osImage name _ => exact plain_ite undecided (Issue.plain_notFound (quotes _ (by simp)))
  | dnsZone crn domain =>
    have noZone : SingleLine (noZone domain) := singleLine_noZone (quotes domain (by simp))
    exact plain_ite undecided (Issue.plain_invalid (quotes crn (by simp)) noZone)
  | vpcGroup value | vpc value _ | subnet value _ | encryptionKey value =>
    exact plain_ite (Issue.plain_notFound (quotes value (by simp))) undecided
  | resourceGroup _ | subnetZones _ | machineType _ | machineZones _ _ => exact undecided

theorem Subject.plain_of_mem_objections {place : Path} {s : Subject} {answer : s.query.Answer}
    (quotes : ∀ t ∈ s.quotes, SingleLine t) (told : PlainResult (q := s.query) (.ok answer)) :
    ∀ i ∈ s.objections place answer, i.Plain := by
  unfold objections
  split
  · rename_i crn domain id
    have noZone : SingleLine (noZone domain) := singleLine_noZone (quotes domain (by simp))
    split
    · exact List.forall_mem_singleton.mpr (Issue.plain_invalid (quotes crn (by simp)) noZone)
    · simp
  · rename_i name groups
    split
    · simp
    · exact List.forall_mem_singleton.mpr (Issue.plain_notFound (quotes name (by simp)))
  · rename_i id zones found
    have among : SingleLine (notAmong "subnet" zones) :=
      singleLine_notAmong (by decide) fun zone member => quotes zone (List.mem_cons_of_mem _ member)
    split
    · simp
    · exact List.forall_mem_singleton.mpr (Issue.plain_invalid (quotes id (by simp)) among)
  · rename_i name profiles
    split
    · simp
    · exact List.forall_mem_singleton.mpr (Issue.plain_notFound (quotes name (by simp)))
  · rename_i region declared zones
    have among : SingleLine (notAmong "zone" zones) := singleLine_notAmong (by decide) told
    rw [List.forall_mem_map]
    intro zone rejected
    exact Issue.plain_invalid (quotes zone (List.mem_of_mem_filter rejected)) among
  all_goals simp

/-- The issues of a finding have no line break of their own if neither the quoted texts of the install
config nor the answer of the cloud has one. -/
theorem Finding.plain_of_mem_issues {f : Finding} (quotes : ∀ t ∈ f.subject.quotes, SingleLine t)
    (told : PlainResult f.result) : ∀ i ∈ f.issues, i.Plain := by
  intro i member
  unfold issues at member
  split at member
  · rename_i e failed
    rw [failed] at told
    rw [List.mem_singleton.mp member]
    exact Subject.plain_failure quotes told
  · rename_i answer answered
    rw [answered] at told
    exact Subject.plain_of_mem_objections quotes told i member

/-- Nothing that the report of a check may quote has a line break: no text of the install config, no name
of a region, and no answer of the cloud to a lookup that was made. -/
structure PlainInputs (s : Service) (session : Session) (c : Install.Config) (p : Install.Platform) :
    Prop where
  domain : SingleLine c.baseDomain
  platform : ∀ t ∈ p.quotable, SingleLine t
  pools : ∀ path m, HasPool c p path m → ∀ t ∈ m.quotable, SingleLine t
  regions : ∀ name ∈ s.regions.shortNames, SingleLine name
  answers : ∀ earlier q later, (s.check session c).2.calls = earlier ++ q :: later →
    PlainResult (s.cloud session.limit earlier q).result

variable {s : Service} {session : Session} {c : Install.Config} {p : Install.Platform}

section Quotes

variable {fs : List Finding} {place : Path} {subject : Subject}

theorem AsksBasic.singleLine_quotes (plain : PlainInputs s session c p)
    (asks : AsksBasic c p place subject) : ∀ t ∈ subject.quotes, SingleLine t := by
  have ofPlatform := plain.platform
  unfold Install.Platform.quotable at ofPlatform
  cases asks with
  | dnsInstance => exact List.forall_mem_singleton.mpr (ofPlatform _ (by simp))
  | dnsZone =>
    rw [Subject.quotes, List.forall_mem_cons, List.forall_mem_singleton]
    exact ⟨ofPlatform _ (by simp), plain.domain⟩
  | osImage => exact List.forall_mem_singleton.mpr (ofPlatform _ (by simp))
  | resourceGroup named => exact List.forall_mem_singleton.mpr (ofPlatform _ (by simp [named]))

theorem AsksVpc.singleLine_quotes (plain : PlainInputs s session c p)
    (asks : AsksVpc p place subject) : ∀ t ∈ subject.quotes, SingleLine t := by
  have ofPlatform := plain.platform
  unfold Install.Platform.quotable at ofPlatform
  cases asks with
  | vpcGroup named => exact List.forall_mem_singleton.mpr (ofPlatform _ (by simp [named]))
  | vpc _ named => exact List.forall_mem_singleton.mpr (ofPlatform _ (by simp [named]))

theorem AsksSubnets.singleLine_quotes (plain : PlainInputs s session c p)
    (told : ∀ f ∈ fs, PlainResult f.result) (asks : AsksSubnets p fs place subject) :
    ∀ t ∈ subject.quotes, SingleLine t := by
  cases asks with
  | subnetZones => simp
  | @subnet id zones listed known =>
    have zonesTold := told _ known
    rw [Subject.quotes, List.forall_mem_cons]
    refine ⟨plain.platform _ (by simp [Install.Platform.quotable, listed]), ?_⟩
    cases zones with
    | error e => simp [Except.toOption]
    | ok valid => exact zonesTold

theorem AsksPool.singleLine_quotes (plain : PlainInputs s session c p)
    (asks : AsksPool c p place subject) : ∀ t ∈ subject.quotes, SingleLine t := by
  cases asks with
  | machineType stands named =>
    refine List.forall_mem_singleton.mpr (plain.pools _ _ stands _ ?_)
    simp [Install.PoolSettings.quotable, named]
  | @machineZones _ m stands =>
    intro zone declared
    have listed : zone ∈ m.zones := declared
    exact plain.pools _ _ stands zone (by simp [Install.PoolSettings.quotable, listed])
  | encryptionKey stands named =>
    refine List.forall_mem_singleton.mpr (plain.pools _ _ stands _ ?_)
    simp [Install.PoolSettings.quotable, named]

theorem Asks.singleLine_quotes (plain : PlainInputs s session c p)
    (told : ∀ f ∈ fs, PlainResult f.result) (asks : Asks c p fs place subject) :
    ∀ t ∈ subject.quotes, SingleLine t := by
  cases asks with
  | basic asks => exact asks.singleLine_quotes plain
  | vpc asks => exact asks.singleLine_quotes plain
  | subnets asks => exact asks.singleLine_quotes plain told
  | pool asks => exact asks.singleLine_quotes plain

end Quotes

theorem plain_of_mem_region {regions : Region.Catalog} {name : String} {place : Path} {i : Issue}
    (shown : SingleLine name) (single : ∀ name ∈ regions.shortNames, SingleLine name)
    (member : i ∈ Install.Rules.region regions name place) : i.Plain := by
  unfold Install.Rules.region at member
  split at member
  · rw [List.mem_singleton.mp member]
    exact Issue.plain_required (by decide)
  · split at member
    · cases member
    · rw [List.mem_singleton.mp member]
      exact Issue.plain_notSupported shown single

namespace Service

/-- When nothing that a report may quote has a line break, then no issue has one. -/
theorem plain_of_mem_report {report : List Issue} {i : Issue} (given : c.platform = some p)
    (plain : PlainInputs s session c p) (checked : (s.check session c).1 = .ok report) (member : i ∈ report) :
    i.Plain := by
  obtain ⟨answered, _, basics, resources, same, accounted, outcomes⟩ :=
    exists_accounted (s := s) session given
  cases checked.symm.trans same
  -- Being cut short is told in fixed words, and anything else in those of the cloud.
  have told : ∀ f ∈ basics ++ resources, PlainResult f.result := by
    intro f among
    have answer : f.exchange ∈ answered := accounted.lookups ▸ List.mem_map_of_mem among
    rcases outcomes _ answer with cut | late | ⟨earlier, later, made, fromCloud⟩
    · rw [show f.result = _ from cut]
      exact (by decide : SingleLine "lookup cancelled")
    · rw [show f.result = _ from late]
      exact singleLine_append.mpr ⟨by decide, Duration.singleLine_text _⟩
    · rw [show f.result = _ from fromCloud]
      exact plain.answers earlier _ later made
  rcases accounted.mem_report_iff.mp member with ruled | ruled | ⟨f, among, found⟩
  · have shown : SingleLine p.region := plain.platform _ (by simp [Install.Platform.quotable])
    exact plain_of_mem_region shown plain.regions ruled
  · have detail : SingleLine Install.Rules.networkDetail := by decide
    rcases Install.Rules.mem_network ruled with rfl | rfl
    · exact Issue.plain_required detail
    · exact Issue.plain_required detail
  · have quotes := (accounted.asks among).singleLine_quotes plain told
    exact Finding.plain_of_mem_issues quotes (told f among) i found

/-- An issue of a report is one line exactly when nothing that it shows has a line break. -/
theorem singleLine_text_iff_plain {report : List Issue} {i : Issue}
    (checked : (s.check session c).1 = .ok report) (member : i ∈ report) :
    SingleLine i.text ↔ i.Plain := by
  have place := singleLine_of_mem_reportPlaces (path_mem_reportPlaces checked member)
  rw [Field.Issue.singleLine_text_iff, Field.Issue.Plain]
  exact and_iff_right place

/-- **One defect per line.** The lines of a report are the texts of its issues, one for each, exactly
when no issue shows a value or a detail with a line break. Neither happens when no text of the install
config, no name of a region and no answer of the cloud has a line break. -/
theorem check_lines_iff (session : Session) (given : c.platform = some p) :
    ∃ report, (s.check session c).1 = .ok report ∧
      (report ≠ [] →
        (Text.lines (Field.reportText report) = report.map Issue.text ↔ ∀ i ∈ report, i.Plain)) ∧
      (PlainInputs s session c p → report ≠ [] →
        Text.lines (Field.reportText report) = report.map Issue.text) := by
  obtain ⟨-, report, -, -, checked, -, -⟩ := exists_accounted (s := s) session given
  have exact (some : report ≠ []) :
      Text.lines (Field.reportText report) = report.map Issue.text ↔ ∀ i ∈ report, i.Plain := by
    rw [Field.lines_reportText_iff some]
    exact forall₂_congr fun i member => singleLine_text_iff_plain checked member
  refine ⟨report, checked, exact, fun plain some => (exact some).mpr fun i member => ?_⟩
  exact plain_of_mem_report given plain checked member

theorem plainInputs_zoneless :
    PlainInputs ⟨constantly zoneless, .builtIn, .ofSeconds 60⟩ (.start (.ofSeconds 60) false)
      Sample.config Sample.platform := by
  constructor
  case domain => decide
  case platform => decide
  case pools =>
    have machines : ∀ t ∈ Sample.machines.quotable, SingleLine t := by decide
    -- Whatever pool has settings in the sample has the same ones.
    rintro path m (set | set | ⟨listed, set⟩)
    · cases set
      exact machines
    · cases set
      exact machines
    · have among := List.mem_of_getElem? listed
      simp only [Sample.config, List.mem_cons, List.not_mem_nil, or_false] at among
      rcases among with rfl | rfl
      · cases set
      · cases set
        exact machines
  case regions => decide
  case answers =>
    have plain : ∀ q ∈ (sampleCheck zoneless).2.calls, PlainResult (zoneless q) := by decide +kernel
    intro earlier q later made
    have made : (sampleCheck zoneless).2.calls = earlier ++ q :: later := made
    exact plain q (by simp [made])

/-- The sample config has four issues in an account of which no zones can be listed, one line each. -/
theorem check_lines_zoneless :
    Sample.config.platform = some Sample.platform ∧
    ∃ report, (sampleCheck zoneless).1 = .ok report ∧ report.length = 4 ∧
      Text.lines (Field.reportText report) = report.map Issue.text := by
  have four : (sampleCheck zoneless).1.toOption.map List.length = some 4 := by decide +kernel
  obtain ⟨report, checked, -, separate⟩ := check_lines_iff (p := Sample.platform)
    (s := ⟨constantly zoneless, .builtIn, .ofSeconds 60⟩) (c := Sample.config)
    (.start (.ofSeconds 60) false) rfl
  have checked : (sampleCheck zoneless).1 = .ok report := checked
  rw [checked] at four
  have length : report.length = 4 := Option.some.inj four
  have some : report ≠ [] := List.ne_nil_of_length_eq_add_one length
  exact ⟨rfl, report, checked, length, separate plainInputs_zoneless some⟩

/-- An install config with an image whose name goes on after a line break like another issue. -/
def forging : Install.Config where
  clusterName := "demo"
  baseDomain := "base.domain"
  platform := some
    { region := "us-south"
      dnsInstanceCrn := "crn:dns"
      osImage := "none\"\nplatform.ibmcloud.vpc: Not found: \"net"
      resourceGroup := none
      vpc := none
      vpcResourceGroup := none
      subnets := []
      defaultMachines := none }
  controlPlane := none
  compute := []

/-- One issue is reported, and the lines of the report are those of two, of which the second has never
been found. -/
theorem check_lines_forged :
    ∃ report,
      ((overSnapshot Sample.snapshot .builtIn (fun _ _ => .exact) (.ofSeconds 60)).check
        (.start (.ofSeconds 60) false) forging).1 = .ok report ∧
      report.length = 1 ∧ Text.lines (Field.reportText report) ≠ report.map Issue.text ∧
      Text.lines (Field.reportText report) =
        [Issue.notFound (platformPath.child "clusterOSImage") "none",
          Issue.notFound (platformPath.child "vpc") "net"].map Issue.text := by
  refine ⟨[.notFound (platformPath.child "clusterOSImage")
    "none\"\nplatform.ibmcloud.vpc: Not found: \"net"], by decide +kernel, rfl, ?_, ?_⟩
  · rw [Text.lines_eq]
    decide +kernel
  · rw [Text.lines_eq]
    decide +kernel

end Service

end Check

end InstallCheck
