import InstallCheck.Cloud.Recording
import InstallCheck.Proofs.Cloud.Merge
import InstallCheck.Proofs.Files.Tree

/-!
What several paths to recordings stand for: each of them holds a snapshot, and what counts is the merge
of these, in the order of the paths. If a path cannot be loaded, the first such path says why.
-/
namespace InstallCheck.Cloud

open Files (Disk)

namespace Recording

section Folding

variable {α : Type} {f : α → Except RecordingError Snapshot} {xs : List α} {start : Snapshot}

/-- Snapshots that are merged as they are found: each of them is there. -/
theorem foldlM_merge_eq_ok_iff {m : Snapshot} :
    xs.foldlM (fun s x => (f x).map s.merge) start = .ok m ↔
      ∃ snapshots, List.Forall₂ (fun x s => f x = .ok s) xs snapshots ∧
        snapshots.foldl Snapshot.merge start = m := by
  -- Each item adds to what was merged before, so the statement is about any start.
  induction xs generalizing start with
  | nil => simp [pure, Except.pure]
  | cons x xs ih =>
    rw [List.foldlM_cons]
    cases found : f x with
    | error e => simp [List.forall₂_cons_left_iff, found, bind, Except.bind, Except.map]
    | ok s =>
      change xs.foldlM _ (start.merge s) = _ ↔ _
      rw [ih]
      simp [List.forall₂_cons_left_iff, found]

/-- What goes wrong is what goes wrong with the first item that is not there. -/
theorem foldlM_merge_eq_error_iff {e : RecordingError} :
    xs.foldlM (fun s x => (f x).map s.merge) start = .error e ↔
      ∃ x, xs.find? (fun x => !(f x).isOk) = some x ∧ f x = .error e := by
  induction xs generalizing start with
  | nil => simp [pure, Except.pure]
  | cons x xs ih =>
    rw [List.foldlM_cons]
    cases found : f x with
    | error failure => simp [found, Except.isOk, Except.toBool, bind, Except.bind, Except.map]
    | ok s =>
      change xs.foldlM _ (start.merge s) = _ ↔ _
      rw [ih, List.find?_cons_of_neg (by simp [found, Except.isOk, Except.toBool])]

theorem foldlM_merge_congr {g : α → Except RecordingError Snapshot} (same : ∀ x ∈ xs, f x = g x) :
    xs.foldlM (fun s x => (f x).map s.merge) start = xs.foldlM (fun s x => (g x).map s.merge) start := by
  induction xs generalizing start with
  | nil => rfl
  | cons x xs ih =>
    rw [List.forall_mem_cons] at same
    rw [List.foldlM_cons, List.foldlM_cons, same.1]
    exact congrArg _ (funext fun _ => ih same.2)

end Folding

variable {d : Disk} {paths : List String}

/-- What a file holds is what its text stands for. -/
theorem loadPath_of_file {path text : String} {bytes : List UInt8} {format : Document.Format}
    {s : Snapshot} (there : d.node path = .ok (.file bytes)) (known : format? path = some format)
    (legible : Text.ofUtf8? bytes = some text)
    (parsed : Document.ofText? format text >>= Snapshot.read = some s) : loadPath d path = .ok s := by
  rw [loadPath, there]
  simp only [loadFile, known, Disk.readText_of_node there legible, ofText, parsed]

/-- Each of these paths holds the snapshot that stands in its place. -/
def Hold (d : Disk) (paths : List String) (snapshots : List Snapshot) : Prop :=
  List.Forall₂ (fun path s => loadPath d path = .ok s) paths snapshots

/-- Several paths can be loaded when each of them can be. -/
theorem load_eq_ok_iff {merged : Snapshot} :
    load d paths = .ok merged ↔
      ∃ snapshots, Hold d paths snapshots ∧ Snapshot.merged snapshots = merged :=
  foldlM_merge_eq_ok_iff

theorem load_eq_error_iff {e : RecordingError} :
    load d paths = .error e ↔
      ∃ path, paths.find? (fun path => !(loadPath d path).isOk) = some path ∧
        loadPath d path = .error e :=
  foldlM_merge_eq_error_iff

theorem foldlM_loadPath {start : Snapshot} :
    paths.foldlM (fun s path => (loadPath d path).map s.merge) start =
      (load d paths).map start.merge := by
  cases loaded : load d paths with
  | error e =>
    rw [Except.map]
    exact foldlM_merge_eq_error_iff.mpr (foldlM_merge_eq_error_iff.mp loaded)
  | ok m =>
    obtain ⟨snapshots, hold, rfl⟩ := load_eq_ok_iff.mp loaded
    rw [Except.map]
    exact foldlM_merge_eq_ok_iff.mpr ⟨snapshots, hold, Snapshot.foldl_merge⟩

/-- **Loading paths is a homomorphism to the merge of snapshots.** Merging is associative, with the empty
snapshot as its identity. The first paths of a list and the others can be loaded apart and merged; the
list fails as the first of its paths that cannot be loaded; and if there is none, the tables are those of
the paths, one after the other, with the zones of a region as the last path with the region has them. -/
theorem load_append_merges :
    (∀ s t u : Snapshot, (s.merge t).merge u = s.merge (t.merge u)) ∧
    (∀ s : Snapshot, (∅ : Snapshot).merge s = s ∧ s.merge ∅ = s) ∧
    ∀ (d : Disk) (p q : List String),
      load d (p ++ q) = (do return (← load d p).merge (← load d q)) ∧
      (∀ e, load d (p ++ q) = .error e ↔
        ∃ path, (p ++ q).find? (fun path => !(loadPath d path).isOk) = some path ∧
          loadPath d path = .error e) ∧
      ∀ m, load d (p ++ q) = .ok m ↔ ∃ snapshots, Hold d (p ++ q) snapshots ∧ m.Gathers snapshots := by
  refine ⟨Snapshot.merge_assoc, fun s => ⟨s.empty_merge, s.merge_empty⟩, fun d p q => ⟨?_, ?_, ?_⟩⟩
  · have split : load d (p ++ q) = load d p >>= fun s =>
        q.foldlM (fun s path => (loadPath d path).map s.merge) s := List.foldlM_append
    rw [split]
    cases load d p with
    | error e => rfl
    | ok s =>
      change q.foldlM _ s = _
      rw [foldlM_loadPath]
      cases load d q <;> rfl
  · exact fun e => load_eq_error_iff
  · intro m
    rw [load_eq_ok_iff]
    refine exists_congr fun snapshots => and_congr_right fun _ => ?_
    rw [Snapshot.gathers_iff, eq_comm]

end Recording

end InstallCheck.Cloud
