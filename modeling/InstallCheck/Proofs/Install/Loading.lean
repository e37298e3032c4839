import InstallCheck.Install.Loading

/-!
Reading an install config depends on the name and the text of its file, and fails for reasons of its own.
-/
namespace InstallCheck.Install

open Files (Disk Given)

variable {d e : Disk} {path : Given} {c : Config}

theorem loadConfig_eq_ok_iff :
    loadConfig d path = .ok c ↔
      ∃ format text,
        ((Files.Path.extension? path.shown).map (·.toLower) >>= Document.Format.ofExtension?) = some format ∧
          path.readText d = .ok text ∧ (Document.ofText? format text >>= Config.read) = some c := by
  unfold loadConfig
  cases (Files.Path.extension? path.shown).map (·.toLower) >>= Document.Format.ofExtension? with
  | none => simp
  | some format =>
    cases path.readText d with
    | error cause => simp
    | ok text => cases read : (Document.ofText? format text).bind Config.read <;> simp [read]

theorem loadConfig_congr (same : path.readText e = path.readText d) :
    loadConfig e path = loadConfig d path := by
  rw [loadConfig, loadConfig, same]

theorem loadConfig_ne_issuesFound (count : Nat) : loadConfig d path ≠ .error (.issuesFound count) := by
  unfold loadConfig
  intro failed
  split at failed
  · cases failed
  · split at failed
    · cases failed
    · split at failed <;> cases failed

end InstallCheck.Install
