import InstallCheck.Proofs.Cloud.Recording
import InstallCheck.Proofs.Files.Walk
import InstallCheck.Proofs.Text.Utf8
import Mathlib.Data.List.Sort

/-!
What a directory of recordings stands for: the files in it, at any depth, that have a known extension, in
the order of their paths. In which order directories list their entries does not matter, nor what else
there is in them.
-/
namespace InstallCheck.Cloud.Recording

open Files (Disk FilesInOrder Node Path.below Path.extension? Visit Walkable)

variable {d other : Disk} {directory path : String} {tree otherTree : Node}

/-- A path with one of the extensions that recordings have. -/
def Recorded (path : String) : Prop :=
  Path.extension? path = some "toml" ∨ Path.extension? path = some "json"

theorem isSome_format?_iff : (format? path).isSome = true ↔ Recorded path := by
  rw [format?, Recorded]
  cases Path.extension? path with
  | none => simp
  | some ext =>
    simp only [Option.bind_eq_bind, Option.bind_some, Option.some.injEq]
    unfold Document.Format.ofExtension?
    split <;> simp_all

theorem recorded_join {name : String} (isName : Disk.IsName name) (named : directory ≠ "") :
    Recorded (Files.Path.join directory name) ↔
      Files.Path.nameExtension? name = some "toml" ∨ Files.Path.nameExtension? name = some "json" := by
  rw [Recorded, Files.Path.extension?_join isName named]

instance : DecidablePred Recorded := fun _ => decidable_of_iff _ isSome_format?_iff

section Files

/-- What goes wrong with a file is said about that file. -/
theorem path_of_loadFile {e : RecordingError} (failed : loadFile d path = .error e) : e.path = path := by
  unfold loadFile at failed
  split at failed
  · cases failed
    rfl
  · split at failed
    · cases failed
      rfl
    · unfold ofText at failed
      split at failed
      · cases failed
      · cases failed
        rfl

theorem loadFile_congr (same : d.node path = other.node path) : loadFile d path = loadFile other path := by
  simp only [loadFile, Disk.readText, Disk.read, same]

/-- Files without a known extension add nothing. -/
theorem foldlM_ofVisit {files : List (List String × List UInt8)} {start : Snapshot} :
    (files.map fun f => Visit.file (Path.below directory f.1) f.2).foldlM
        (fun s v => (ofVisit d v).map s.merge) start =
      ((files.map (·.1)).filter fun way => Recorded (Path.below directory way)).foldlM
        (fun s way => (loadFile d (Path.below directory way)).map s.merge) start := by
  induction files generalizing start with
  | nil => rfl
  | cons f files ih =>
    rw [List.map_cons, List.map_cons, List.foldlM_cons, ofVisit]
    by_cases counts : Recorded (Path.below directory f.1)
    · rw [if_pos (isSome_format?_iff.mpr counts), List.filter_cons_of_pos (by simpa using counts),
        List.foldlM_cons]
      exact congrArg _ (funext fun _ => ih)
    · rw [if_neg (mt isSome_format?_iff.mp counts), List.filter_cons_of_neg (by simpa using counts), ← ih]
      simp [Except.map, bind, Except.bind]

end Files

/-- The ways to the recordings below a directory, in the order of their names' bytes. -/
structure InOrder (tree : Node) (directory : String) (ways : List (List String)) : Prop where
  mem_iff : ∀ way, way ∈ ways ↔
    (∃ bytes, tree.descend way = some (.file bytes)) ∧ Recorded (Path.below directory way)
  ascending : ways.Pairwise fun way next => way.map Text.bytes < next.map Text.bytes

theorem inOrder_of_files {files : List (List String × List UInt8)} (inOrder : FilesInOrder tree files) :
    InOrder tree directory
      ((files.map (·.1)).filter fun way => Recorded (Path.below directory way)) where
  mem_iff way := by
    have among : way ∈ files.map (·.1) ↔ ∃ bytes, tree.descend way = some (.file bytes) := by
      simp [← inOrder.mem_iff]
    rw [List.mem_filter, among, decide_eq_true_eq]
  ascending := by
    apply List.Pairwise.filter
    rw [List.pairwise_map]
    apply inOrder.ascending.imp
    intro f g before
    exact List.map_lt (fun _ _ => Text.bytes_lt_iff.mpr) before

variable {entries others : List (String × Node)} {ways : List (List String)}

theorem InOrder.unique {more : List (List String)} (inOrder : InOrder tree directory ways)
    (inOrderToo : InOrder tree directory more) : ways = more := by
  -- lists in ascending order with the same members are equal
  have : Std.Asymm fun way next : List String => way.map Text.bytes < next.map Text.bytes :=
    ⟨fun _ _ => List.lt_asymm⟩
  apply inOrder.ascending.eq_of_mem_iff inOrderToo.ascending
  intro way
  rw [inOrder.mem_iff, inOrderToo.mem_iff]

/-- The recordings that a walk comes by. -/
def recordings (visits : List Visit) : List String :=
  visits.filterMap fun v => match v with
    | .file path _ => if Recorded path then some path else none
    | .unlistable _ => none

theorem recordings_files {files : List (List String × List UInt8)} :
    recordings (files.map fun f => .file (Path.below directory f.1) f.2) =
      ((files.map (·.1)).filter fun way => Recorded (Path.below directory way)).map
        (Path.below directory) := by
  induction files with
  | nil => rfl
  | cons f files ih =>
    rw [List.map_cons, List.map_cons, ← List.singleton_append, recordings, List.filterMap_append]
    by_cases counts : Recorded (Path.below directory f.1)
    · rw [List.filter_cons_of_pos (by simpa using counts), List.map_cons, ← ih]
      simp [counts, recordings]
    · rw [List.filter_cons_of_neg (by simpa using counts), ← ih]
      simp [counts, recordings]

theorem InOrder.recordings_visits (walkable : Walkable directory tree)
    (inOrder : InOrder tree directory ways) :
    recordings (tree.visits directory) = ways.map (Path.below directory) := by
  obtain ⟨files, filesInOrder, visited⟩ := walkable.exists_filesInOrder
  rw [visited, recordings_files, inOrder.unique (inOrder_of_files filesInOrder)]

/-- A directory is loaded recording by recording. -/
theorem InOrder.loadPath_eq (walkable : Walkable directory (.directory entries))
    (there : d.node directory = .ok (.directory entries))
    (inOrder : InOrder (.directory entries) directory ways) :
    loadPath d directory =
      ways.foldlM (fun s way => (loadFile d (Path.below directory way)).map s.merge) ∅ := by
  obtain ⟨files, filesInOrder, visited⟩ := walkable.exists_filesInOrder
  simp only [loadPath, there]
  rw [ofVisits, visited, foldlM_ofVisit, inOrder.unique (inOrder_of_files filesInOrder)]

theorem InOrder.loadPath_congr (inOrder : InOrder (.directory entries) directory ways)
    (walkable : Walkable directory (.directory entries))
    (walkableToo : Walkable directory (.directory others))
    (there : d.node directory = .ok (.directory entries))
    (thereToo : other.node directory = .ok (.directory others))
    (same : ∀ way bytes, Recorded (Path.below directory way) →
      ((Node.directory others).descend way = some (.file bytes) ↔
        (Node.directory entries).descend way = some (.file bytes))) :
    loadPath other directory = loadPath d directory := by
  have inOrderToo : InOrder (.directory others) directory ways := by
    refine ⟨fun way => ?_, inOrder.ascending⟩
    rw [inOrder.mem_iff]
    exact and_congr_left fun counts => exists_congr fun bytes => (same way bytes counts).symm
  rw [inOrder.loadPath_eq walkable there, inOrderToo.loadPath_eq walkableToo thereToo]
  -- the ways are the same, and on either disk each leads to the same file
  apply foldlM_merge_congr
  intro way member
  obtain ⟨⟨bytes, found⟩, counts⟩ := (inOrder.mem_iff way).mp member
  have foundToo := (same way bytes counts).mpr found
  exact loadFile_congr (walkableToo.node_below_congr walkable thereToo there foundToo found)

/-- **A directory is loaded in the order of paths.** What counts are the files at any depth with a known
extension, name by name in the order of the names' bytes. If each of them can be loaded, their merge in
this order is what the directory stands for; if not, the first one that cannot be says why. Another
directory with the same recordings, however it is listed and whatever else there is in it, stands for the
same. -/
theorem loadPath_directory (walkable : Walkable directory (.directory entries))
    (there : d.node directory = .ok (.directory entries)) :
    ∃ ways, InOrder (.directory entries) directory ways ∧
      recordings ((Node.directory entries).visits directory) = ways.map (Path.below directory) ∧
      (∀ m, loadPath d directory = .ok m ↔
        ∃ snapshots, List.Forall₂ (fun way s => loadFile d (Path.below directory way) = .ok s)
          ways snapshots ∧ Snapshot.merged snapshots = m) ∧
      (∀ e, loadPath d directory = .error e ↔
        ∃ way, ways.find? (fun way => !(loadFile d (Path.below directory way)).isOk) = some way ∧
          loadFile d (Path.below directory way) = .error e ∧ e.path = Path.below directory way) ∧
      ∀ (other : Disk) (others : List (String × Node)),
        Walkable directory (.directory others) → other.node directory = .ok (.directory others) →
        (∀ way bytes, Recorded (Path.below directory way) →
          ((Node.directory others).descend way = some (.file bytes) ↔
            (Node.directory entries).descend way = some (.file bytes))) →
        loadPath other directory = loadPath d directory := by
  obtain ⟨files, filesInOrder, -⟩ := walkable.exists_filesInOrder
  have inOrder : InOrder (.directory entries) directory _ := inOrder_of_files filesInOrder
  refine ⟨_, inOrder, inOrder.recordings_visits walkable, fun m => ?_, fun e => ?_,
    fun other others walkableToo thereToo same =>
      inOrder.loadPath_congr walkable walkableToo there thereToo same⟩
  · rw [inOrder.loadPath_eq walkable there]
    exact foldlM_merge_eq_ok_iff
  · rw [inOrder.loadPath_eq walkable there, foldlM_merge_eq_error_iff]
    refine exists_congr fun way => and_congr_right fun _ => ?_
    exact (and_iff_left_of_imp path_of_loadFile).symm

/-- Entries in no order: a recording that is no text lies in a directory whose name begins the name of
another recording. -/
def mixedEntries : List (String × Node) :=
  [("notes.txt", .file []), ("a.toml", .file []),
    ("a", .directory [("void", .directory []), ("z.json", .file [0xff])])]

/-- A disk with these in a directory. -/
def mixed : Disk := ⟨.directory [("account", .directory mixedEntries)], []⟩

theorem walkable_mixed : Walkable "account" (.directory mixedEntries) := by
  have joined : Files.Path.join "account" "a" = "account/a" := by decide +kernel
  have inner : Walkable "account/a" (.directory [("void", .directory []), ("z.json", .file [0xff])]) := by
    refine .directory (by decide) (by decide) (by decide) ?_
    simp only [List.forall_mem_cons]
    exact ⟨.directory (by decide +kernel) .nil (by simp) (by simp), .file _ _, by simp⟩
  refine .directory (by decide) (by decide) (by decide) ?_
  simp only [mixedEntries, List.forall_mem_cons]
  exact ⟨.file _ _, .file _ _, joined ▸ inner, by simp⟩

theorem node_mixed : mixed.node "account" = .ok (.directory mixedEntries) :=
  Disk.IsName.node (by decide) rfl

theorem nameExtension?_json : Files.Path.nameExtension? "z.json" = some "json" :=
  Files.Path.nameExtension?_of_pieces (List.cons_ne_nil "z" []) (by decide) (by decide)

theorem inOrder_mixed :
    InOrder (.directory mixedEntries) "account" [["a", "z.json"], ["a.toml"]] where
  mem_iff way := by
    have toml : Files.Path.nameExtension? "a.toml" = some "toml" :=
      Files.Path.nameExtension?_of_pieces (List.cons_ne_nil "a" []) (by decide) (by decide)
    have txt : Files.Path.nameExtension? "notes.txt" = some "txt" :=
      Files.Path.nameExtension?_of_pieces (List.cons_ne_nil "notes" []) (by decide) (by decide)
    constructor
    · intro member
      simp only [List.mem_cons, List.not_mem_nil, or_false] at member
      rcases member with rfl | rfl
      · exact ⟨⟨_, rfl⟩, (recorded_join (by decide) (by decide +kernel)).mpr (.inr nameExtension?_json)⟩
      · exact ⟨⟨_, rfl⟩, (recorded_join (by decide) (by decide)).mpr (.inl toml)⟩
    · rintro ⟨⟨bytes, found⟩, counts⟩
      cases way with
      | nil => cases found
      | cons name way =>
        obtain ⟨child, entry, goesOn⟩ := Option.bind_eq_some_iff.mp found
        have among : (name, child) ∈ mixedEntries :=
          (NameMap.lookup_eq_some_iff (by decide)).mp entry
        simp only [mixedEntries, List.mem_cons, Prod.mk.injEq, List.not_mem_nil, or_false] at among
        rcases among with ⟨rfl, rfl⟩ | ⟨rfl, rfl⟩ | ⟨rfl, rfl⟩
        · obtain ⟨rfl, -⟩ := Files.descend_file.mp goesOn
          have counts := (recorded_join (by decide) (by decide)).mp counts
          rw [txt] at counts
          exact absurd counts (by decide)
        · obtain ⟨rfl, -⟩ := Files.descend_file.mp goesOn
          decide
        · cases way with
          | nil => cases goesOn
          | cons name way =>
            obtain ⟨child, entry, goesOn⟩ := Option.bind_eq_some_iff.mp goesOn
            have among := (NameMap.lookup_eq_some_iff (by decide)).mp entry
            simp only [List.mem_cons, Prod.mk.injEq, List.not_mem_nil, or_false] at among
            rcases among with ⟨rfl, rfl⟩ | ⟨rfl, rfl⟩
            · cases way <;> cases goesOn
            · obtain ⟨rfl, -⟩ := Files.descend_file.mp goesOn
              decide
  ascending := by decide +kernel

/-- The walk comes by the recording that is no text first, and this is what goes wrong. -/
theorem loadPath_directory_mixed :
    Walkable "account" (.directory mixedEntries) ∧
    mixed.node "account" = .ok (.directory mixedEntries) ∧
    recordings ((Node.directory mixedEntries).visits "account") =
      ["account/a/z.json", "account/a.toml"] ∧
    loadPath mixed "account" = .error (.unreadable "account/a/z.json" .notText) := by
  obtain ⟨ways, inOrder, visited, -, failed, -⟩ := loadPath_directory walkable_mixed node_mixed
  cases inOrder.unique inOrder_mixed
  have paths : Path.below "account" ["a", "z.json"] = "account/a/z.json" ∧
      Path.below "account" ["a.toml"] = "account/a.toml" := by decide +kernel
  have there : mixed.node (Path.below "account" ["a", "z.json"]) = .ok (.file [0xff]) :=
    walkable_mixed.node_below node_mixed rfl (by decide +kernel)
  have known : format? (Path.below "account" ["a", "z.json"]) = some .json := by
    have json : Path.extension? (Path.below "account" ["a", "z.json"]) = some "json" :=
      (Files.Path.extension?_join (by decide) (by decide +kernel)).trans nameExtension?_json
    rw [format?, json]
    rfl
  have noText : Text.ofUtf8? [0xff] = none := by decide +kernel
  have illegible : loadFile mixed (Path.below "account" ["a", "z.json"]) =
      .error (.unreadable "account/a/z.json" .notText) := by
    rw [paths.1] at there known ⊢
    simp only [loadFile, known, Disk.readText, Disk.read, there, bind, Except.bind, pure, Except.pure,
      noText, throw, throwThe, MonadExceptOf.throw]
  refine ⟨walkable_mixed, node_mixed, ?_, (failed _).mpr ⟨["a", "z.json"], ?_, illegible, paths.1.symm⟩⟩
  · rw [visited, List.map_cons, List.map_singleton, paths.1, paths.2]
  · exact List.find?_cons_of_pos (by rw [illegible]; rfl)

end InstallCheck.Cloud.Recording
