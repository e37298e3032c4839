import InstallCheck.Proofs.CommandLine.Init
import InstallCheck.Proofs.Program.Task
import InstallCheck.Proofs.Settings.Default

/-!
What comes of asking for the default settings in a file. The settings are loaded before any command is
carried out, and from the same file, so there has to be a usable one before it can be written.
-/
namespace InstallCheck.Program

open CommandLine (Request initWords looksLikeArgument ofWords_initWords refused_initWords)
open Files (Disk)
open Output (Writer)

variable {m : Moment} {env : Environment} {d e : Disk} {r : Request} {s : Settings} {t : Trail}
  {terminal : Bool}

section Loading

theorem runOn_loadSettings :
    ∃ events, (loadSettings env r).runOn t =
      ((Settings.load env t.disk r.settingsFile).mapError fun e => .settings e.text [e.text],
        { t with events := events }) := by
  unfold loadSettings
  simp only [Task.runOn_disk_bind, Task.runOn_log_bind]
  cases Settings.load env t.disk r.settingsFile with
  | error failure => exact ⟨_, rfl⟩
  | ok s => exact ⟨_, rfl⟩

def errorOf? {α : Type} : Except CommandError α → Option CommandError
  | .ok _ => none
  | .error e => some e

theorem failure_endingOf :
    (endingOf m env d r terminal).failure =
      errorOf? ((carryOut m env r terminal).runOn (.start d)).1 := by
  unfold endingOf
  split <;> simp [*, errorOf?]

theorem disk_endingOf :
    (endingOf m env d r terminal).trail.disk =
      ((carryOut m env r terminal).runOn (.start d)).2.disk := by
  unfold endingOf
  split <;> simp [*]

/-- Without settings nothing is done. -/
theorem endingOf_of_unloadable {failure : Settings.LoadError}
    (failed : Settings.load env d r.settingsFile = .error failure) :
    (endingOf m env d r terminal).exitCode = 4 ∧ (endingOf m env d r terminal).trail.disk = d := by
  have stopped : ∃ events, (carryOut m env r terminal).runOn (.start d) =
      (.error (.settings failure.text [failure.text]), ⟨d, [], events⟩) := by
    unfold carryOut
    rw [Task.runOn_log_bind, Task.runOn_bind]
    -- What was logged until then is of no account.
    obtain ⟨events, loading⟩ := runOn_loadSettings
    rw [loading, Trail.start, failed]
    exact ⟨events, rfl⟩
  obtain ⟨events, stopped⟩ := stopped
  rw [Ending.exitCode, failure_endingOf, disk_endingOf, stopped]
  exact ⟨rfl, rfl⟩

/-- With settings, the command is carried out. -/
theorem endingOf_of_loaded (terminal : Bool) (loaded : Settings.load env d r.settingsFile = .ok s) :
    (endingOf m env d r terminal).failure =
        errorOf? ((perform m env s (writerOf s r terminal) r).runOn (.start d)).1 ∧
      (endingOf m env d r terminal).trail.disk =
        ((perform m env s (writerOf s r terminal) r).runOn (.start d)).2.disk := by
  rw [failure_endingOf, disk_endingOf]
  unfold carryOut
  rw [Task.runOn_log_bind, Task.runOn_bind]
  obtain ⟨events, loading⟩ := runOn_loadSettings
  rw [loading, Trail.start, loaded]
  simp only [Except.mapError, Task.runOn_bind, Task.runOn_during]
  rcases (perform m env s (writerOf s r terminal) r).runOn ⟨d, [], []⟩ with ⟨_ | _, _⟩ <;> exact ⟨rfl, rfl⟩

end Loading

section Init

variable {w : Writer} {file : String}

/-- A file that is there is left alone, unless that is forced. -/
theorem runOn_init_of_present {here : Bool} (present : t.disk.has file = true) :
    ((init env w (some file) here false).runOn t).2.disk = t.disk := by
  unfold init Init.path
  simp only [Task.runOn_disk_bind, present, Bool.not_false, Bool.and_self, if_true, Task.runOn_write]

/-- Writing the default settings changes that file alone. -/
theorem runOn_writeInit (written : t.disk.write file Settings.default.text = .ok e) :
    ((Init.write w file).runOn t).1 = .ok () ∧ ((Init.write w file).runOn t).2.disk = e := by
  unfold Init.write
  cases parent : (Files.Path.parent? file).filter (· ≠ "") with
  | none =>
    simp only [pure_bind, Task.runOn_disk_bind, written, Task.file_ok, Task.runOn_setDisk_bind,
      Task.runOn_log_bind, Task.runOn_write, and_self]
  | some above =>
    -- The directory is there, since the file could be written without making one.
    have made := Disk.makeDirectories_parent written (Option.filter_eq_some_iff.mp parent).1
    simp only [Task.runOn_disk_bind, made, written, Task.file_ok, pure_bind,
      Task.runOn_setDisk_bind, Task.runOn_log_bind, Task.runOn_write, and_self]

theorem runOn_init_of_free {here force : Bool} (free : (t.disk.has file && !force) = false)
    (written : t.disk.write file Settings.default.text = .ok e) :
    ((init env w (some file) here force).runOn t).1 = .ok () ∧
      ((init env w (some file) here force).runOn t).2.disk = e := by
  unfold init Init.path
  simp only [Task.runOn_disk_bind, free, Bool.false_eq_true, if_false]
  exact runOn_writeInit written

end Init

section Appearance

variable {words : List String}

theorem appear_of_asked (asked : Request.ofWords env words = .ok r) :
    appear m env d words terminal = .ofEnding m env (endingOf m env d r terminal) := by
  rw [appear, run, asked]
  rfl

theorem appear_of_refused (refused : CommandLine.Refused (Request.ofWords env words)) :
    (appear m env d words terminal).exitCode = 2 ∧ (appear m env d words terminal).disk = d := by
  obtain ⟨refusal, stopped⟩ := refused
  rw [appear, run, stopped]
  exact ⟨rfl, rfl⟩

end Appearance

section Recovery

variable {file : String} (force : Bool)

/-- The words that ask for the default settings in a file can be carried out: the file does not look
like an argument, and there are settings in it already. -/
def Initializable (env : Environment) (d : Disk) (file : String) : Prop :=
  looksLikeArgument file = false ∧ ∃ s, Settings.load env d (some file) = .ok s

/-- A run succeeded, and it left the text of the default settings in a file, from which they are
loaded. -/
structure Recovered (env : Environment) (file : String) (a : Appearance) : Prop where
  succeeded : a.exitCode = 0
  content : a.disk.read file = .ok Settings.default.text.toUTF8.toList
  loaded : Settings.load env a.disk (some file) = .ok Settings.default

theorem ne_empty_of_write {content : String} (written : d.write file content = .ok e) : file ≠ "" := by
  obtain ⟨_, located, -, -⟩ := Disk.put_of_write written
  exact (Disk.locate_eq_ok_iff.mp located).1

/-- A run that cannot be carried out fails and leaves everything as it was. -/
theorem appear_init_of_not (written : d.write file Settings.default.text = .ok e)
    (not : ¬ Initializable env d file) :
    (appear m env d (initWords file force) terminal).exitCode =
        (if looksLikeArgument file then 2 else 4) ∧
      (appear m env d (initWords file force) terminal).disk = d := by
  by_cases dashed : looksLikeArgument file = true
  · rw [if_pos dashed]
    exact appear_of_refused (refused_initWords dashed force)
  · rw [if_neg dashed]
    have plain : looksLikeArgument file = false := by simpa using dashed
    obtain ⟨r, asked, place, -⟩ :=
      ofWords_initWords env (ne_empty_of_write written) plain force
    rw [appear_of_asked asked]
    cases load : Settings.load env d (some file) with
    | ok s => exact absurd ⟨plain, s, load⟩ not
    | error failure =>
      rw [← place] at load
      exact endingOf_of_unloadable load

theorem not_recovered (written : d.write file Settings.default.text = .ok e)
    (not : ¬ Initializable env d file) :
    ¬ Recovered env file (appear m env d (initWords file force) terminal) := by
  intro recovered
  have failed : (appear m env d (initWords file force) terminal).exitCode = _ :=
    (appear_init_of_not force written not).1
  rw [recovered.succeeded] at failed
  split at failed <;> cases failed

/-- Any other run carries out the command on the files as they are. -/
theorem appear_init (terminal : Bool) (written : d.write file Settings.default.text = .ok e)
    (initializable : Initializable env d file) :
    ∃ w, let done := (init env w (some file) false force).runOn (.start d)
      (appear m env d (initWords file force) terminal).exitCode =
          ((errorOf? done.1).map (·.exitCode)).getD 0 ∧
        (appear m env d (initWords file force) terminal).disk = done.2.disk := by
  obtain ⟨plain, s, load⟩ := initializable
  obtain ⟨r, asked, place, action⟩ :=
    ofWords_initWords env (ne_empty_of_write written) plain force
  rw [← place] at load
  obtain ⟨failure, disk⟩ := endingOf_of_loaded (m := m) terminal load
  have performed : perform m env s (writerOf s r terminal) r =
      init env (writerOf s r terminal) (some file) false force := by
    rw [perform, action, ← place]
  rw [performed] at failure disk
  refine ⟨writerOf s r terminal, ?_, ?_⟩
  · rw [appear_of_asked asked]
    change (endingOf m env d r terminal).exitCode = _
    rw [Ending.exitCode, failure]
  · rw [appear_of_asked asked]
    exact disk

theorem recovered_of_free (unset : Settings.Unset env)
    (written : d.write file Settings.default.text = .ok e) (initializable : Initializable env d file)
    (free : (d.has file && !force) = false) :
    Recovered env file (appear m env d (initWords file force) terminal) := by
  obtain ⟨w, exitCode, disk⟩ := appear_init (m := m) force terminal written initializable
  have done : ((init env w (some file) false force).runOn (.start d)).1 = .ok () ∧
      ((init env w (some file) false force).runOn (.start d)).2.disk = e :=
    runOn_init_of_free free written
  rw [done.1] at exitCode
  rw [done.2] at disk
  have content := Disk.read_of_write written
  exact {
    succeeded := exitCode
    content := disk ▸ content
    loaded := disk ▸ Settings.load_of_read_default unset (Disk.hasFile_of_write written) content }

theorem recovered_iff_of_free (unset : Settings.Unset env)
    (written : d.write file Settings.default.text = .ok e) (free : (d.has file && !force) = false) :
    Recovered env file (appear m env d (initWords file force) terminal) ↔ Initializable env d file := by
  constructor
  · intro recovered
    by_contra not
    exact not_recovered force written not recovered
  · exact fun initializable => recovered_of_free force unset written initializable free

theorem disk_appear_init_of_present (written : d.write file Settings.default.text = .ok e)
    (present : d.has file = true) : (appear m env d (initWords file false) terminal).disk = d := by
  by_cases initializable : Initializable env d file
  · obtain ⟨w, -, disk⟩ := appear_init (m := m) false terminal written initializable
    rw [disk]
    exact runOn_init_of_present present
  · exact (appear_init_of_not false written initializable).2

end Recovery

namespace Sample

def moment : Moment := ⟨"2025-01-01T00:00:00.000000Z", "run-1"⟩

/-- A directory with these files. -/
def diskOf (files : List (String × String)) : Disk :=
  ⟨.directory (files.map fun f => (f.1, .file f.2.toUTF8.toList)), []⟩

variable {files : List (String × String)}

theorem locate_diskOf : (diskOf files).locate "my.toml" = .ok ["my.toml"] :=
  have isName : Disk.IsName "my.toml" := by decide
  isName.locate ⟨_, rfl⟩

def bare : Disk := diskOf []

def kept : Disk := diskOf [("my.toml", "[lookup]\ntimeout_secs = 5\n")]

/-- A file that breaks off. -/
def spoilt : Disk := diskOf [("my.toml", "[lookup")]

theorem unset : Settings.Unset ∅ := fun _ member => nomatch member

theorem node_bare : bare.node "my.toml" = .error .missing := by
  rw [Disk.node, bare, locate_diskOf]
  rfl

theorem writable_bare : ∃ e, bare.write "my.toml" Settings.default.text = .ok e := by
  have named : "my.toml".endsWith "/" = false := by decide +kernel
  rw [Disk.write, node_bare, bare, locate_diskOf]
  simp only [named]
  exact ⟨_, rfl⟩

section Present

variable {content : String}

theorem node_present : (diskOf [("my.toml", content)]).node "my.toml" =
    .ok (.file content.toUTF8.toList) :=
  Disk.node_eq_ok_iff.mpr ⟨_, locate_diskOf, rfl⟩

theorem writable_present :
    ∃ e, (diskOf [("my.toml", content)]).write "my.toml" Settings.default.text = .ok e := by
  rw [Disk.write, node_present, locate_diskOf]
  exact ⟨_, rfl⟩

theorem load_present : Settings.load ∅ (diskOf [("my.toml", content)]) (some "my.toml") =
    Settings.ofBytes content.toUTF8.toList >>= fun document => Settings.ofLayers document ∅ := by
  refine Settings.load_of_read ?_ ?_
  · rw [Disk.hasFile, node_present]
  · rw [Disk.read, node_present]
    rfl

end Present

theorem initializable_kept : Initializable ∅ kept "my.toml" := by
  refine ⟨by decide, { Settings.default with timeoutSeconds := 5 }, load_present.trans ?_⟩
  decide +kernel

theorem load_spoilt : Settings.load ∅ spoilt (some "my.toml") = .error .malformed := by
  refine load_present.trans ?_
  decide +kernel

theorem hasFile_bare {file : String} : bare.hasFile file = false := by
  by_contra present
  unfold Disk.hasFile at present
  split at present
  · rename_i bytes found
    obtain ⟨location, -, there⟩ := Disk.node_eq_ok_iff.mp found
    cases location with
    | nil => cases there
    | cons name rest => cases there
  · exact present rfl

theorem load_bare : Settings.load ∅ bare (some "my.toml") = .error (.noFile "my.toml") := by
  have none : Settings.actualFile? bare "my.toml" = none :=
    List.find?_eq_none.mpr fun file _ present => nomatch hasFile_bare.symm.trans present
  rw [Settings.load, Settings.ofFile, none]
  rfl

end Sample

variable {file : String}

/-- **Asking for the default settings in a file recovers them exactly where there are settings in that
file already** (or in the one with `.toml` added, if it is not there), and its name does not look like
an argument. A file that is there is left alone unless that is forced. Where the words cannot be
carried out, the run fails and changes nothing. -/
theorem execute_init_recovers_iff (unset : Settings.Unset (.withFile env d))
    (writable : ∃ e, d.write file Settings.default.text = .ok e) :
    let env' := Environment.withFile env d
    (Recovered env' file (execute m env d (initWords file true) terminal) ↔ Initializable env' d file) ∧
      (d.has file = false →
        (Recovered env' file (execute m env d (initWords file false) terminal) ↔ Initializable env' d file)) ∧
      (d.has file = true → (execute m env d (initWords file false) terminal).disk = d) ∧
      (¬ Initializable env' d file → ∀ force,
        (execute m env d (initWords file force) terminal).exitCode =
            (if looksLikeArgument file then 2 else 4) ∧
          (execute m env d (initWords file force) terminal).disk = d) := by
  obtain ⟨e, written⟩ := writable
  refine ⟨?_, ?_, ?_, ?_⟩
  · exact recovered_iff_of_free true unset written (Bool.and_false _)
  · intro absent
    exact recovered_iff_of_free false unset written (by rw [absent, Bool.false_and])
  · exact disk_appear_init_of_present written
  · exact fun not force => appear_init_of_not force written not

theorem execute_init_recovers_kept :
    Settings.Unset (.withFile ∅ Sample.kept) ∧
      (∃ e, Sample.kept.write "my.toml" Settings.default.text = .ok e) ∧
      Recovered ∅ "my.toml" (execute Sample.moment ∅ Sample.kept (initWords "my.toml" true)) ∧
      Sample.kept.has "my.toml" = true ∧
      (execute Sample.moment ∅ Sample.kept (initWords "my.toml" false)).disk = Sample.kept := by
  have unset : Settings.Unset (.withFile ∅ Sample.kept) := Sample.unset
  obtain ⟨forced, -, plain, -⟩ :=
    execute_init_recovers_iff (m := Sample.moment) unset Sample.writable_present
  have present : Sample.kept.has "my.toml" = true := by
    rw [Disk.has, Sample.kept, Sample.node_present]
    rfl
  exact ⟨Sample.unset, Sample.writable_present, forced.mpr Sample.initializable_kept, present,
    plain present⟩

/-- Neither a file that is not there nor one that cannot be loaded is ever recovered. -/
theorem execute_init_stuck :
    (Settings.Unset (.withFile ∅ Sample.bare) ∧
      (∃ e, Sample.bare.write "my.toml" Settings.default.text = .ok e) ∧
      Sample.bare.has "my.toml" = false ∧
      ¬ Recovered ∅ "my.toml" (execute Sample.moment ∅ Sample.bare (initWords "my.toml" true)) ∧
      ¬ Recovered ∅ "my.toml" (execute Sample.moment ∅ Sample.bare (initWords "my.toml" false))) ∧
    (Settings.Unset (.withFile ∅ Sample.spoilt) ∧
      (∃ e, Sample.spoilt.write "my.toml" Settings.default.text = .ok e) ∧
      ¬ Recovered ∅ "my.toml" (execute Sample.moment ∅ Sample.spoilt (initWords "my.toml" true))) := by
  obtain ⟨_, made⟩ := Sample.writable_bare
  obtain ⟨_, replaced⟩ : ∃ e, Sample.spoilt.write "my.toml" Settings.default.text = .ok e :=
    Sample.writable_present
  have absent : ¬ Initializable ∅ Sample.bare "my.toml" := by
    rintro ⟨-, s, loaded⟩
    cases Sample.load_bare.symm.trans loaded
  have malformed : ¬ Initializable ∅ Sample.spoilt "my.toml" := by
    rintro ⟨-, s, loaded⟩
    cases Sample.load_spoilt.symm.trans loaded
  have nothing : Sample.bare.has "my.toml" = false := by
    rw [Disk.has, Sample.node_bare]
    rfl
  exact ⟨⟨Sample.unset, ⟨_, made⟩, nothing, not_recovered true made absent, not_recovered false made absent⟩,
    Sample.unset, ⟨_, replaced⟩, not_recovered true replaced malformed⟩

end InstallCheck.Program
