import InstallCheck.Proofs.Cloud.Recording
import InstallCheck.Proofs.Install.Loading
import InstallCheck.Proofs.Program.Recovery

/-!
What comes of checking an install config. The issues for which no cloud is needed are looked for first;
only if there are none, and the cloud is not to be left out, is anything read from the recordings.
-/
namespace InstallCheck.Program

open Cloud (Snapshot)
open Cloud.Recording (Hold load_eq_ok_iff)
open InstallCheck.Field (Issue)
open Files (Disk)
open Install (loadConfig loadConfig_congr loadConfig_eq_ok_iff loadConfig_ne_issuesFound)
open Output (Writer)
open Validate (Options)

namespace Validate

/-- The issues of a platform section for which no cloud is needed. -/
def offlineIssues (s : Settings) (p : Install.Platform) : List Issue :=
  Install.Rules.platform s.catalog p Check.Service.platformPath

/-- The service that checks against the account of which a snapshot was taken. -/
def serviceOn (s : Settings) (snapshot : Snapshot) : Check.Service :=
  ⟨(Cloud.Account.ofSnapshot snapshot).cloud, s.catalog, s.limit⟩

/-- What the check against an account comes to. -/
def crossIssues (s : Settings) (snapshot : Snapshot) (c : Install.Config) :
    Except CheckError (List Issue) :=
  ((serviceOn s snapshot).check (serviceOn s snapshot).newSession c).1

/-- The issues that are reported on an install config: those for which no cloud is needed, if there are
any or the cloud is left out, and else those that the check against the recorded account finds. -/
inductive Reports (s : Settings) (d : Disk) (o : Options) : List Issue → Prop
  | offline {c : Install.Config} {p : Install.Platform} (loaded : loadConfig d o.config = .ok c)
      (given : c.platform = some p) (settled : offlineIssues s p ≠ [] ∨ o.offline = true) :
      Reports s d o (offlineIssues s p)
  | online {c : Install.Config} {p : Install.Platform} {snapshots : List Snapshot}
      {issues : List Issue} (loaded : loadConfig d o.config = .ok c) (given : c.platform = some p)
      (clean : offlineIssues s p = []) (asked : o.offline = false)
      (held : Hold d o.recordings snapshots)
      (checked : crossIssues s (.merged snapshots) c = .ok issues) : Reports s d o issues

/-- It is settled without a cloud what comes of the check of an install config. -/
inductive Settled (s : Settings) (d : Disk) (o : Options) : Prop
  | unloadable {e : CommandError} (failed : loadConfig d o.config = .error e)
  | noPlatform {c : Install.Config} (loaded : loadConfig d o.config = .ok c)
      (missing : c.platform = none)
  | issues {c : Install.Config} {p : Install.Platform} (loaded : loadConfig d o.config = .ok c)
      (given : c.platform = some p) (found : offlineIssues s p ≠ [])
  | offline (asked : o.offline = true)

/-- How a check ends that has written its report. -/
def verdict (issues : List Issue) : Except CommandError Unit :=
  if issues.isEmpty then .ok () else .error (.issuesFound issues.length)

/-- A report can be written: a document has to name the install config by a text. -/
def Writable (w : Writer) (o : Options) : Prop := w.format = .json → ∃ path, o.config = .text path

variable {m : Moment} {s : Settings} {w : Writer} {o : Options} {t : Trail} {d e : Disk}
  {c : Install.Config} {p : Install.Platform} {issues : List Issue}

theorem verdict_of_ne_nil (some : issues ≠ []) :
    verdict issues = .error (.issuesFound issues.length) := by
  rw [verdict, List.isEmpty_eq_false_iff.mpr some]
  rfl

theorem verdict_eq_ok_iff : verdict issues = .ok () ↔ issues = [] := by
  cases issues with
  | nil => exact iff_of_true rfl rfl
  | cons i rest =>
    rw [verdict_of_ne_nil (List.cons_ne_nil i rest)]
    exact iff_of_false nofun (List.cons_ne_nil i rest)

/-- The cloud checks neither write nor change files. -/
theorem runOn_crossCheck :
    ∃ events, (crossCheck m s o c p).runOn t =
      (match Cloud.Recording.load t.disk o.recordings with
        | .error e => .error (.recording e)
        | .ok snapshot => (crossIssues s snapshot c).mapError .check,
      { t with events := events }) := by
  unfold crossCheck crossIssues serviceOn
  rw [Task.runOn_disk_bind, Task.runOn_logAll_bind]
  cases Cloud.Recording.load t.disk o.recordings with
  | error e => exact ⟨_, rfl⟩
  | ok snapshot =>
    dsimp only
    rw [Task.runOn_log_bind, Task.runOn_logAll_bind]
    rcases Check.Service.check _ _ c with ⟨_ | _, _⟩ <;> exact ⟨_, rfl⟩

theorem exists_report_of_writable (writable : Writable w o) :
    ∃ pieces, report m w o issues = .ok pieces := by
  unfold report Writer.isJson
  by_cases json : w.format = .json
  · obtain ⟨path, named⟩ := writable json
    exact ⟨_, by rw [json, named]; rfl⟩
  · exact ⟨_, if_neg (by simpa using json)⟩

theorem report_of_not_writable (unwritable : ¬ Writable w o) :
    report m w o issues = .error pathNotText := by
  unfold Writable at unwritable
  obtain ⟨json, nameless⟩ := Classical.not_imp.mp unwritable
  rw [report, Writer.isJson, json]
  cases named : o.config with
  | text path => exact absurd ⟨path, named⟩ nameless
  | raw path => rfl

/-- Writes the issues, and fails if there are any or if they cannot be written. -/
def conclude (m : Moment) (w : Writer) (o : Options) (issues : List Issue) : Task Unit := do
  match report m w o issues with
  | .error e => throw e
  | .ok pieces =>
    Task.write pieces
    unless issues.isEmpty do throw (.issuesFound issues.length)

/-- What comes of a check that has found these issues. -/
def outcome (m : Moment) (w : Writer) (o : Options) (issues : List Issue) (t : Trail) :
    Except CommandError Unit × Trail :=
  match report m w o issues with
  | .error e => (.error e, t)
  | .ok pieces => (verdict issues, { t with written := t.written ++ pieces })

theorem runOn_conclude : (conclude m w o issues).runOn t = outcome m w o issues t := by
  unfold conclude outcome
  cases report m w o issues with
  | error e => rfl
  | ok pieces =>
    rw [Task.runOn_bind, Task.runOn_write]
    cases issues <;> rfl

theorem outcome_of_ok {pieces : List String} (written : report m w o issues = .ok pieces) :
    outcome m w o issues t = (verdict issues, { t with written := t.written ++ pieces }) := by
  rw [outcome, written]

/-- What was logged before makes no difference to what is written. -/
theorem outcome_events (events : List Logging.Event) :
    (outcome m w o issues { t with events := events }).1 = (outcome m w o issues t).1 ∧
      (outcome m w o issues { t with events := events }).2.written =
        (outcome m w o issues t).2.written := by
  unfold outcome
  cases report m w o issues <;> exact ⟨rfl, rfl⟩

/-- The event that says how many issues there are for which no cloud is needed. -/
def offlineFinished (s : Settings) (p : Install.Platform) : Logging.Event :=
  .plain target .debug "Offline checks finished" [("errors", toString (offlineIssues s p).length)]

theorem checkConfig_eq (given : c.platform = some p) :
    checkConfig m s w o c = (do
      Task.log (offlineFinished s p)
      if (offlineIssues s p).isEmpty && !o.offline then
        crossCheck m s o c p >>= conclude m w o
      else
        conclude m w o (offlineIssues s p)) := by
  rw [checkConfig, given]
  rfl

/-- Where no cloud is needed, or none is to be asked, nothing is read from the recordings. -/
theorem runOn_checkConfig_of_offline (given : c.platform = some p)
    (settled : offlineIssues s p ≠ [] ∨ o.offline = true) :
    (checkConfig m s w o c).runOn t =
      outcome m w o (offlineIssues s p) { t with events := t.events ++ [offlineFinished s p] } := by
  have skipped : ¬ ((offlineIssues s p).isEmpty && !o.offline) = true := by
    simpa [imp_iff_not_or] using settled
  rw [checkConfig_eq given, Task.runOn_log_bind, if_neg skipped, runOn_conclude]

theorem runOn_checkConfig_of_online (given : c.platform = some p)
    (clean : offlineIssues s p = []) (asked : o.offline = false) :
    ∃ events, (checkConfig m s w o c).runOn t =
      match Cloud.Recording.load t.disk o.recordings with
      | .error e => (.error (.recording e), { t with events := events })
      | .ok snapshot =>
        match crossIssues s snapshot c with
        | .error e => (.error (.check e), { t with events := events })
        | .ok issues => outcome m w o issues { t with events := events } := by
  have needed : ((offlineIssues s p).isEmpty && !o.offline) = true := by
    rw [clean, asked]
    rfl
  obtain ⟨events, crossed⟩ := runOn_crossCheck (m := m) (s := s) (o := o) (c := c) (p := p)
    (t := { t with events := t.events ++ [offlineFinished s p] })
  refine ⟨events, ?_⟩
  rw [checkConfig_eq given, Task.runOn_log_bind, if_pos needed, Task.runOn_bind, crossed]
  cases Cloud.Recording.load t.disk o.recordings with
  | error e => rfl
  | ok snapshot =>
    dsimp only
    cases crossIssues s snapshot c with
    | error e => rfl
    | ok issues => exact runOn_conclude

/-- A check that does not get to the cloud is the same whatever there is to be read. -/
theorem runOn_checkConfig_congr (recordings : List String) (runId : String)
    (settled : ∀ p, c.platform = some p → offlineIssues s p ≠ [] ∨ o.offline = true) :
    (checkConfig { m with runId } s w { o with recordings } c).runOn { t with disk := d } =
      (((checkConfig m s w o c).runOn t).1, { ((checkConfig m s w o c).runOn t).2 with disk := d }) := by
  cases given : c.platform with
  | none =>
    -- There is nothing to check, and the failure says no more than that.
    rw [checkConfig, checkConfig, given]
    rfl
  | some p =>
    have here := settled p given
    rw [runOn_checkConfig_of_offline given here,
      runOn_checkConfig_of_offline (o := { o with recordings }) given here]
    -- Neither the recordings nor the identifier of the run are reported.
    have same : report { m with runId } w { o with recordings } (offlineIssues s p) =
      report m w o (offlineIssues s p) := rfl
    rw [outcome, outcome, same]
    cases report m w o (offlineIssues s p) <;> rfl

end Validate

section Run

open Validate

variable {m : Moment} {s : Settings} {w : Writer} {o : Options} {t : Trail} {d : Disk}
  {e : CommandError} {c : Install.Config} {issues : List Issue}

theorem runOn_validate_of_error (failed : loadConfig t.disk o.config = .error e) :
    (validate m s w o).runOn t = (.error e, t) := by
  rw [validate, Task.runOn_during, Task.runOn_disk_bind, failed]
  exact congrArg (fun events => (_, { t with events })) (List.append_nil _)

theorem runOn_validate_of_ok (loaded : loadConfig t.disk o.config = .ok c) :
    (validate m s w o).runOn t =
      (Task.during (span Validate.target o.config.shown) (checkConfig m s w o c)).runOn t := by
  rw [validate, Task.runOn_during, Task.runOn_during, Task.runOn_disk_bind, loaded]

theorem Validate.Reports.runOn_validate (reports : Reports s t.disk o issues) :
    ((validate m s w o).runOn t).1 = (outcome m w o issues t).1 ∧
      ((validate m s w o).runOn t).2.written = (outcome m w o issues t).2.written := by
  cases reports with
  | offline loaded given settled =>
    rw [runOn_validate_of_ok loaded, Task.runOn_during, runOn_checkConfig_of_offline given settled]
    exact outcome_events (t := t) [offlineFinished s _]
  | online loaded given clean asked held checked =>
    obtain ⟨events, run⟩ := runOn_checkConfig_of_online (m := m) (w := w)
      (t := { t with events := [] }) given clean asked
    rw [runOn_validate_of_ok loaded, Task.runOn_during, run, load_eq_ok_iff.mpr ⟨_, held, rfl⟩]
    dsimp only
    rw [checked]
    exact outcome_events (t := t) events

theorem Validate.Reports.runOn_validate_of_writable (reports : Reports s t.disk o issues)
    (writable : Writable w o) :
    ((validate m s w o).runOn t).1 = verdict issues ∧
      ∃ pieces, report m w o issues = .ok pieces ∧
        ((validate m s w o).runOn t).2.written = t.written ++ pieces := by
  obtain ⟨pieces, written⟩ : ∃ pieces, report m w o issues = .ok pieces :=
    exists_report_of_writable writable
  obtain ⟨result, all⟩ := reports.runOn_validate (m := m) (w := w)
  rw [outcome_of_ok written] at result all
  exact ⟨result, pieces, written, all⟩

/-- A report that cannot be written is not written, and the check fails for that reason alone. -/
theorem Validate.Reports.runOn_validate_of_not_writable (reports : Reports s t.disk o issues)
    (unwritable : ¬ Writable w o) :
    ((validate m s w o).runOn t).1 = .error pathNotText ∧
      ((validate m s w o).runOn t).2.written = t.written := by
  have nothing : outcome m w o issues t = (.error pathNotText, t) := by
    rw [outcome, report_of_not_writable unwritable]
  have all := reports.runOn_validate (m := m) (w := w)
  rwa [nothing] at all

/-- A run comes to a report or fails for some other reason. -/
theorem exists_reports_or_failure :
    (∃ issues, Reports s t.disk o issues) ∨
      ∃ failure, ((validate m s w o).runOn t).1 = .error failure ∧
        ∀ count, failure ≠ .issuesFound count := by
  cases loaded : loadConfig t.disk o.config with
  | error e =>
    rw [runOn_validate_of_error loaded]
    exact .inr ⟨e, rfl, fun count same => loadConfig_ne_issuesFound count (same ▸ loaded)⟩
  | ok c =>
    rw [runOn_validate_of_ok loaded, Task.runOn_during]
    cases given : c.platform with
    | none =>
      rw [checkConfig, given]
      exact .inr ⟨_, rfl, nofun⟩
    | some p =>
      by_cases settled : offlineIssues s p ≠ [] ∨ o.offline = true
      · exact .inl ⟨_, .offline loaded given settled⟩
      · -- Now a report depends on the recordings, and on what the account made of them answers.
        rw [not_or, not_not, Bool.not_eq_true] at settled
        obtain ⟨clean, asked⟩ := settled
        obtain ⟨events, run⟩ := runOn_checkConfig_of_online (m := m) (w := w)
          (t := { t with events := [] }) given clean asked
        rw [run]
        cases recorded : Cloud.Recording.load t.disk o.recordings with
        | error e => exact .inr ⟨_, rfl, nofun⟩
        | ok snapshot =>
          obtain ⟨snapshots, held, rfl⟩ := load_eq_ok_iff.mp recorded
          dsimp only
          cases checked : crossIssues s (.merged snapshots) c with
          | error e => exact .inr ⟨_, rfl, nofun⟩
          | ok issues => exact .inl ⟨_, .online loaded given clean asked held checked⟩

theorem runOn_validate_eq_ok_iff (writable : Writable w o) :
    ((validate m s w o).runOn t).1 = .ok () ↔ Reports s t.disk o [] := by
  constructor
  · intro succeeded
    obtain ⟨issues, reports⟩ | ⟨failure, failed, -⟩ :=
      exists_reports_or_failure (m := m) (s := s) (w := w) (o := o) (t := t)
    · rw [(reports.runOn_validate_of_writable writable).1] at succeeded
      exact verdict_eq_ok_iff.mp succeeded ▸ reports
    · rw [succeeded] at failed
      cases failed
  · exact fun reports => (reports.runOn_validate_of_writable writable).1

theorem runOn_validate_eq_issuesFound_iff {count : Nat} (writable : Writable w o) :
    ((validate m s w o).runOn t).1 = .error (.issuesFound count) ↔
      0 < count ∧ ∃ issues, Reports s t.disk o issues ∧ issues.length = count := by
  constructor
  · intro failed
    obtain ⟨issues, reports⟩ | ⟨failure, other, not⟩ :=
      exists_reports_or_failure (m := m) (s := s) (w := w) (o := o) (t := t)
    · rw [(reports.runOn_validate_of_writable writable).1] at failed
      have some : issues ≠ [] := by
        rintro rfl
        cases failed
      rw [verdict_of_ne_nil some] at failed
      cases failed
      exact ⟨List.length_pos_iff.mpr some, issues, reports, rfl⟩
    · rw [failed] at other
      cases other
      exact absurd rfl (not count)
  · rintro ⟨positive, issues, reports, rfl⟩
    rw [(reports.runOn_validate_of_writable writable).1, verdict_of_ne_nil (List.length_pos_iff.mp positive)]

/-- Where the platform section keeps the rules, there are no issues if the cloud is left out, and else
if the recorded account has everything. -/
theorem reports_nil_iff :
    Reports s d o [] ↔
      ∃ c p, loadConfig d o.config = .ok c ∧ c.platform = some p ∧ offlineIssues s p = [] ∧
        (o.offline = true ∨ ∃ snapshots, Hold d o.recordings snapshots ∧
          crossIssues s (.merged snapshots) c = .ok []) := by
  constructor
  · intro reports
    -- A report can be taken apart only where its issues are any list at all.
    obtain ⟨issues, none, reports⟩ : ∃ issues, issues = [] ∧ Reports s d o issues := ⟨[], rfl, reports⟩
    cases reports with
    | offline loaded given settled =>
      exact ⟨_, _, loaded, given, none, .inl (settled.resolve_left fun some => some none)⟩
    | online loaded given clean asked held checked =>
      exact ⟨_, _, loaded, given, clean, .inr ⟨_, held, none ▸ checked⟩⟩
  · rintro ⟨c, p, loaded, given, clean, rest⟩
    cases asked : o.offline with
    | true => exact clean ▸ .offline loaded given (.inr asked)
    | false =>
      obtain ⟨snapshots, held, checked⟩ := rest.resolve_left (by simp [asked])
      exact .online loaded given clean asked held checked

/-- What is to be read from recordings makes no difference where everything is settled without. -/
theorem runOn_validate_congr {recordings : List String} {runId : String}
    (settled : Settled s t.disk o) (same : o.config.readText d = o.config.readText t.disk) :
    (validate { m with runId } s w { o with recordings }).runOn { t with disk := d } =
      (((validate m s w o).runOn t).1, { ((validate m s w o).runOn t).2 with disk := d }) := by
  -- The install config is all that is read, so it is all that has to be the same.
  have alike := loadConfig_congr same
  cases loaded : loadConfig t.disk o.config with
  | error e =>
    rw [runOn_validate_of_error loaded,
      runOn_validate_of_error (o := { o with recordings }) (t := { t with disk := d })
        (alike.trans loaded)]
  | ok c =>
    have offline : ∀ p, c.platform = some p → offlineIssues s p ≠ [] ∨ o.offline = true := by
      intro p given
      cases settled with
      | unloadable failed => cases loaded.symm.trans failed
      | noPlatform read missing =>
        cases loaded.symm.trans read
        cases given.symm.trans missing
      | issues read there found =>
        cases loaded.symm.trans read
        cases given.symm.trans there
        exact .inl found
      | offline asked => exact .inr asked
    have within := runOn_checkConfig_congr (m := m) (w := w) (d := d) (t := { t with events := [] })
      recordings runId offline
    rw [runOn_validate_of_ok loaded,
      runOn_validate_of_ok (o := { o with recordings }) (t := { t with disk := d })
        (alike.trans loaded),
      Task.runOn_during, Task.runOn_during, within]

end Run

/-- **A check of an install config succeeds just when nothing is wrong with it**, if a report can be
written: the config can be read, it has a platform section that keeps the rules, and the cloud is left
out, or all recordings can be loaded and the account that they make up together has everything. A check
that comes to a report with issues writes them and fails with their number and the exit code 2. Where it is settled without a cloud what
comes of the check, it ends alike, writes the same and logs the same whatever recordings are named and
whatever files there are, as long as the text of the install config is the same. -/
theorem validate_ends (m : Moment) (s : Settings) (w : Writer) (o : Options) (t : Trail) :
    let run := (validate m s w o).runOn t
    (Validate.Writable w o →
      (run.1 = .ok () ↔
        ∃ c p, loadConfig t.disk o.config = .ok c ∧ c.platform = some p ∧
          Validate.offlineIssues s p = [] ∧
          (o.offline = true ∨ ∃ snapshots, Hold t.disk o.recordings snapshots ∧
            Validate.crossIssues s (.merged snapshots) c = .ok [])) ∧
      (∀ count, run.1 = .error (.issuesFound count) ↔
        0 < count ∧ ∃ issues, Validate.Reports s t.disk o issues ∧ issues.length = count) ∧
      ∀ issues, Validate.Reports s t.disk o issues →
        ∃ pieces, Validate.report m w o issues = .ok pieces ∧
          run.2.written = t.written ++ pieces) ∧
    (∀ count, (CommandError.issuesFound count).exitCode = 2) ∧
    (Validate.Settled s t.disk o → ∀ recordings runId d,
      o.config.readText d = o.config.readText t.disk →
      let other :=
        (validate { m with runId } s w { o with recordings }).runOn { t with disk := d }
      other.1 = run.1 ∧ other.2.written = run.2.written ∧ other.2.events = run.2.events) := by
  refine ⟨fun writable => ⟨(runOn_validate_eq_ok_iff writable).trans reports_nil_iff,
    fun _ => runOn_validate_eq_issuesFound_iff writable,
    fun _ reports => (reports.runOn_validate_of_writable writable).2⟩, fun _ => rfl, ?_⟩
  intro settled recordings runId d same
  rw [runOn_validate_congr settled same]
  exact ⟨rfl, rfl, rfl⟩

namespace Sample

/-- An install config without machines, as a text. -/
def smallText : String :=
  "[platform.ibmcloud]\nregion = \"us-east\"\ncisInstanceCRN = \"crn:1:::internet-svcs:::::\"\n" ++
    "clusterOSImage = \"image\"\n"

def smallPlatform : Install.Platform where
  region := "us-east"
  dnsInstanceCrn := "crn:1:::internet-svcs:::::"
  osImage := "image"
  resourceGroup := none
  vpc := none
  vpcResourceGroup := none
  subnets := []
  defaultMachines := none

def smallConfig : Install.Config where
  clusterName := ""
  baseDomain := ""
  platform := some smallPlatform
  controlPlane := none
  compute := []

/-- A directory with the install config alone. -/
def unrecorded : Disk := diskOf [("small.toml", smallText)]

/-- A directory with the install config and the recording of an empty account. -/
def recorded : Disk := diskOf [("small.toml", smallText), ("empty.toml", "")]

def writer : Writer := ⟨.plain, false, true⟩

/-- A check against the empty account. -/
def checkOnline : Options := ⟨"small.toml", ["empty.toml"], false⟩

/-- A check that leaves the cloud out. -/
def checkOffline : Options := ⟨"small.toml", ["empty.toml"], true⟩

theorem extension_toml {name stem : String} (isName : Disk.IsName name) (visible : stem ≠ "")
    (apart : (name.toList.splitOn '.').map String.ofList = [stem, "toml"]) :
    Files.Path.extension? name = some "toml" := by
  rw [isName.extension?_eq]
  exact Files.Path.nameExtension?_of_pieces (List.cons_ne_nil stem []) (by simpa using visible) apart

theorem readText_small {d : Disk} (there : d.node "small.toml" = .ok (.file smallText.toUTF8.toList)) :
    d.readText "small.toml" = .ok smallText :=
  Disk.readText_of_node there (by decide +kernel)

theorem loadConfig_of_smallText {d : Disk} {path : Files.Given}
    (named : Files.Path.extension? path.shown = some "toml") (legible : path.readText d = .ok smallText) :
    loadConfig d path = .ok smallConfig := by
  refine loadConfig_eq_ok_iff.mpr ⟨.toml, smallText, ?_, legible, by decide +kernel⟩
  rw [named]
  decide +kernel

theorem loadConfig_small {d : Disk}
    (there : d.node "small.toml" = .ok (.file smallText.toUTF8.toList)) :
    loadConfig d "small.toml" = .ok smallConfig :=
  loadConfig_of_smallText (extension_toml (by decide) (by decide : "small" ≠ "") (by decide))
    (readText_small there)

theorem small_unrecorded : unrecorded.node "small.toml" = .ok (.file smallText.toUTF8.toList) :=
  Disk.IsName.node (by decide) rfl

theorem small_recorded : recorded.node "small.toml" = .ok (.file smallText.toUTF8.toList) :=
  Disk.IsName.node (by decide) rfl

theorem hold_recorded : Hold recorded ["empty.toml"] [∅] := by
  have there : recorded.node "empty.toml" = .ok (.file "".toUTF8.toList) :=
    Disk.IsName.node (by decide) rfl
  have known : Cloud.Recording.format? "empty.toml" = some .toml := by
    rw [Cloud.Recording.format?, extension_toml (by decide) (by decide : "empty" ≠ "") (by decide)]
    rfl
  have legible : Text.ofUtf8? "".toUTF8.toList = some "" := by decide +kernel
  exact .cons (Cloud.Recording.loadPath_of_file there known legible (by decide +kernel)) .nil

/-- What the install config asks for that is not in the empty account. -/
def absences : List Issue :=
  [.notFound (Check.Service.platformPath.child "cisInstanceCRN") "crn:1:::internet-svcs:::::",
    .notFound (Check.Service.platformPath.child "clusterOSImage") "image"]

end Sample

/-- Against an account without anything in it the check fails for two reasons. With the cloud left out
it succeeds, and so it does where there is no recording. -/
theorem validate_ends_small :
    Validate.Writable Sample.writer Sample.checkOnline ∧
    Validate.Writable Sample.writer Sample.checkOffline ∧
    (∃ issues, Validate.Reports .default Sample.recorded Sample.checkOnline issues ∧
      issues.length = 2 ∧
      ((validate Sample.moment .default Sample.writer Sample.checkOnline).runOn
        (.start Sample.recorded)).1 = .error (.issuesFound 2) ∧
      .ok ((validate Sample.moment .default Sample.writer Sample.checkOnline).runOn
        (.start Sample.recorded)).2.written =
          Validate.report Sample.moment Sample.writer Sample.checkOnline issues) ∧
    ((validate Sample.moment .default Sample.writer Sample.checkOffline).runOn
      (.start Sample.recorded)).1 = .ok () ∧
    Validate.Settled .default Sample.recorded Sample.checkOffline ∧
    Sample.unrecorded.readText "small.toml" = Sample.recorded.readText "small.toml" ∧
    ((validate Sample.moment .default Sample.writer Sample.checkOffline).runOn
      (.start Sample.unrecorded)).1 = .ok () := by
  have loaded := Sample.loadConfig_small Sample.small_recorded
  have clean : Validate.offlineIssues .default Sample.smallPlatform = [] := by decide +kernel
  have checked : Validate.crossIssues .default (.merged [∅]) Sample.smallConfig =
      .ok Sample.absences := by
    decide +kernel
  have reports : Validate.Reports .default Sample.recorded Sample.checkOnline Sample.absences :=
    .online loaded rfl clean rfl Sample.hold_recorded checked
  have same : Sample.unrecorded.readText "small.toml" = Sample.recorded.readText "small.toml" := by
    rw [Sample.readText_small Sample.small_unrecorded, Sample.readText_small Sample.small_recorded]
  have settled : Validate.Settled .default Sample.recorded Sample.checkOffline := .offline rfl
  have writable : Validate.Writable Sample.writer Sample.checkOnline := fun _ => ⟨_, rfl⟩
  have writableToo : Validate.Writable Sample.writer Sample.checkOffline := fun _ => ⟨_, rfl⟩
  obtain ⟨ends, -, -⟩ :=
    validate_ends Sample.moment .default Sample.writer Sample.checkOnline (.start Sample.recorded)
  obtain ⟨-, failed, shown⟩ := ends writable
  obtain ⟨endsToo, -, alike⟩ :=
    validate_ends Sample.moment .default Sample.writer Sample.checkOffline (.start Sample.recorded)
  have success := (endsToo writableToo).1.mpr ⟨_, _, loaded, rfl, clean, .inl rfl⟩
  obtain ⟨pieces, written, all⟩ := shown _ reports
  obtain ⟨ending, -, -⟩ := alike settled ["empty.toml"] "run-1" Sample.unrecorded same
  exact ⟨writable, writableToo,
    ⟨_, reports, rfl, (failed 2).mpr ⟨by decide, _, reports, rfl⟩, by rw [written, all]; rfl⟩,
    success, settled, same, ending.trans success⟩

end InstallCheck.Program
