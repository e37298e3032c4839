import InstallCheck.Proofs.Files.Tree
import Mathlib.Tactic.Choose

/-!
Walks through directories. A walk comes by every file at any depth once, in the order of the names on the
way to it, whatever the order in which directories list their entries; and what it comes by can be looked
up under the path that it gives.
-/
namespace InstallCheck.Files

/-- The path of what lies below a directory, by the names on the way to it. -/
def Path.below (directory : String) (way : List String) : String := way.foldl join directory

/-- A tree that can be walked through from a path. A directory has one entry of a name, entries have names
that files can have, and the paths of directories are short enough to list them. -/
inductive Walkable : String → Node → Prop
  | file (path : String) (bytes : List UInt8) : Walkable path (.file bytes)
  | directory {path : String} {entries : List (String × Node)}
    (short : path.utf8ByteSize ≤ Disk.longestPath)
    (distinct : (entries.map (·.1)).Nodup)
    (named : ∀ e ∈ entries, Disk.IsName e.1)
    (inside : ∀ e ∈ entries, Walkable (Path.join path e.1) e.2) : Walkable path (.directory entries)

/-- The files of a tree with the ways to them, in the order of the ways: name by name, and a way comes
before those that go on where it ends. -/
structure FilesInOrder (tree : Node) (files : List (List String × List UInt8)) : Prop where
  mem_iff : ∀ way bytes, (way, bytes) ∈ files ↔ tree.descend way = some (.file bytes)
  ascending : files.Pairwise fun f g => f.1 < g.1

/-- No way leads on from a file. -/
theorem descend_file {way : List String} {bytes : List UInt8} {n : Node} :
    (Node.file bytes).descend way = some n ↔ way = [] ∧ n = .file bytes := by
  cases way with
  | nil => simp [Node.descend, eq_comm]
  | cons name way => simp [Node.descend, Node.entry?]

namespace FilesInOrder

variable {tree : Node} {files : List (List String × List UInt8)} {entries : List (String × Node)}

theorem file (bytes : List UInt8) : FilesInOrder (.file bytes) [([], bytes)] where
  mem_iff way content := by simp [descend_file, eq_comm]
  ascending := List.pairwise_singleton _ _

theorem sortByName_ascending (distinct : (entries.map (·.1)).Nodup) :
    (sortByName entries).Pairwise fun e f => e.1 < f.1 := by
  have sorted : (sortByName entries).Pairwise fun e f => decide (e.1 ≤ f.1) = true := by
    apply List.pairwise_mergeSort
    · intro a b c first second
      rw [decide_eq_true_eq] at first second ⊢
      exact String.le_trans first second
    · intro a b
      rw [Bool.or_eq_true, decide_eq_true_eq, decide_eq_true_eq]
      exact String.le_total a.1 b.1
  have apart : (sortByName entries).Pairwise fun e f => e.1 ≠ f.1 := by
    apply List.Pairwise.perm _ (List.mergeSort_perm entries _).symm Ne.symm
    exact List.pairwise_map.mp distinct
  refine (sorted.and apart).imp ?_
  rintro e f ⟨notAfter, different⟩
  rcases Decidable.em (e.1 < f.1) with before | notBefore
  · exact before
  · exact absurd (String.le_antisymm (of_decide_eq_true notAfter) (String.not_lt.mp notBefore)) different

/-- The files of a directory are those of its entries, in the order of their names. -/
theorem directory {filesOf : String × Node → List (List String × List UInt8)}
    (distinct : (entries.map (·.1)).Nodup) (each : ∀ e ∈ entries, FilesInOrder e.2 (filesOf e)) :
    FilesInOrder (.directory entries)
      ((sortByName entries).flatMap fun e => (filesOf e).map fun f => (e.1 :: f.1, f.2)) where
  mem_iff way bytes := by
    have listed (e : String × Node) : e ∈ sortByName entries ↔ e ∈ entries := List.mem_mergeSort
    simp only [List.mem_flatMap, List.mem_map, listed]
    cases way with
    | nil => simp [Node.descend]
    | cons name way =>
      have found (child : Node) : entries.lookup name = some child ↔ (name, child) ∈ entries :=
        NameMap.lookup_eq_some_iff (List.pairwise_map.mp distinct)
      simp only [Node.descend, Node.entry?, Option.bind_eq_bind, Option.bind_eq_some_iff, found]
      constructor
      · rintro ⟨e, among, f, inside, same⟩
        cases same
        exact ⟨e.2, among, ((each e among).mem_iff _ _).mp inside⟩
      · rintro ⟨child, among, goesOn⟩
        exact ⟨(name, child), among, (way, bytes), ((each _ among).mem_iff _ _).mpr goesOn, rfl⟩
  ascending := by
    rw [List.pairwise_flatMap]
    constructor
    · -- Below one entry the rest of the way decides.
      intro e member
      have among : e ∈ entries := List.mem_mergeSort.mp member
      rw [List.pairwise_map]
      apply (each e among).ascending.imp
      intro f g before
      exact List.cons_lt_cons_iff.mpr (.inr ⟨rfl, before⟩)
    · -- Between two entries their names decide.
      apply (sortByName_ascending distinct).imp
      intro e f before x here y there
      obtain ⟨_, -, rfl⟩ := List.mem_map.mp here
      obtain ⟨_, -, rfl⟩ := List.mem_map.mp there
      exact List.cons_lt_cons_iff.mpr (.inl before)

end FilesInOrder

theorem entryVisits_eq (path : String) (entries : List (String × Node)) :
    entryVisits path entries = entries.map fun e => (e.1, e.2.visits (Path.join path e.1)) := by
  induction entries with
  | nil => rfl
  | cons e entries ih => rw [entryVisits, List.map_cons, ih]

theorem sortByName_map {α β : Type} {f : String × α → β} {named : List (String × α)} :
    sortByName (named.map fun e => (e.1, f e)) = (sortByName named).map fun e => (e.1, f e) := by
  symm
  apply List.map_mergeSort
  intros
  rfl

theorem visits_directory {path : String} {entries : List (String × Node)}
    (short : path.utf8ByteSize ≤ Disk.longestPath) :
    (Node.directory entries).visits path =
      (sortByName entries).flatMap fun e => e.2.visits (Path.join path e.1) := by
  rw [Node.visits, if_neg (Nat.not_lt.mpr short), entryVisits_eq, sortByName_map, List.flatMap_map]

/-- **A walk comes by the files of a tree in the order of the ways to them.** -/
theorem Walkable.exists_filesInOrder {path : String} {tree : Node} (walkable : Walkable path tree) :
    ∃ files, FilesInOrder tree files ∧
      tree.visits path = files.map fun f => .file (Path.below path f.1) f.2 := by
  induction walkable with
  | file path bytes => exact ⟨_, .file bytes, by simp [Node.visits, Path.below]⟩
  | @directory path entries short distinct named inside ih =>
    choose! filesOf inOrder visited using ih
    refine ⟨_, .directory distinct inOrder, ?_⟩
    rw [visits_directory short, List.map_flatMap]
    apply List.flatMap_congr
    intro e member
    rw [visited e (List.mem_mergeSort.mp member), List.map_map]
    rfl

section LookingUp

variable {d e : Disk} {path name : String} {location way : List String} {tree n : Node}

theorem Path.utf8ByteSize_le_join (relative : Path.isAbsolute name = false) :
    path.utf8ByteSize ≤ (Path.join path name).utf8ByteSize := by
  unfold Path.join
  rw [relative, if_neg Bool.false_ne_true]
  split
  · rw [String.utf8ByteSize_append]
    omega
  · rw [String.utf8ByteSize_append, String.utf8ByteSize_append]
    omega

/-- The extension of what lies below a directory is that of its name. -/
theorem Path.extension?_join (isName : Disk.IsName name) (named : path ≠ "") :
    Path.extension? (Path.join path name) = Path.nameExtension? name := by
  obtain ⟨stem, joined, -⟩ := Path.exists_stem_join named isName.isAbsolute_eq_false
  have kept := isName.isIdle_eq_false
  obtain ⟨-, -, notAbove, -, noSlash, -⟩ := isName
  rw [Path.extension?, Path.fileName?, joined, Path.pieces_append_slash noSlash, List.reverse_append]
  simp [kept, notAbove]

namespace Disk

/-- A name leads on from where the path of a directory leads. -/
theorem locate_join (located : d.locate path = .ok location) (there : d.root.HasDirectory location)
    (isName : IsName name) (short : (Path.join path name).utf8ByteSize ≤ longestPath) :
    d.locate (Path.join path name) = .ok (location ++ [name]) := by
  obtain ⟨some, valid, -, walk⟩ := locate_eq_ok_iff.mp located
  have relative := isName.isAbsolute_eq_false
  have kept := isName.isIdle_eq_false
  obtain ⟨-, -, notAbove, noNul, noSlash, shortName⟩ := isName
  obtain ⟨stem, joined, same⟩ := Path.exists_stem_join some relative
  -- A slash at the end of the path is a step that leads nowhere else.
  have toStem : (Path.pieces stem).foldlM d.step (d.origin path) = .ok location := by
    rcases same with rfl | rfl
    · exact walk
    · rw [Path.pieces_slash, List.foldlM_append] at walk
      obtain ⟨way, before, last⟩ := bind_eq_ok_iff.mp walk
      have step : d.step way "" = .ok location := by simpa using last
      obtain ⟨entries, found⟩ := hasDirectory_of_step step
      have stays : d.step way "" = .ok way := by simp [Disk.step, found, Path.isIdle]
      rw [before, Except.ok.inj (stays.symm.trans step)]
  have origins : d.origin (Path.join path name) = d.origin path := by
    rw [origin, origin, joined]
    rcases same with rfl | rfl
    · rw [String.append_assoc, Path.isAbsolute_append some]
    · rw [Path.isAbsolute_append some]
  have clean : '\x00' ∉ (Path.join path name).toList := by
    have fromStem : '\x00' ∉ stem.toList := by
      rcases same with rfl | rfl
      · exact valid
      · rw [String.toList_append] at valid
        exact fun found => valid (List.mem_append_left _ found)
    simp [joined, String.toList_append, fromStem, noNul]
  refine locate_eq_ok_iff.mpr ⟨?_, clean, short, ?_⟩
  · rw [joined]
    exact fun empty => by simpa using congrArg String.toList empty
  · obtain ⟨entries, found⟩ := there
    rw [origins, joined, Path.pieces_append_slash noSlash, List.foldlM_append, toStem]
    simp [bind, Except.bind, pure, Except.pure, Disk.step, found, kept, notAbove,
      Nat.not_lt.mpr shortName]

theorem node_join {entries : List (String × Node)} (there : d.node path = .ok (.directory entries))
    (isName : IsName name) (entry : entries.lookup name = some n)
    (short : (Path.join path name).utf8ByteSize ≤ longestPath) : d.node (Path.join path name) = .ok n := by
  obtain ⟨location, located, found⟩ := node_eq_ok_iff.mp there
  refine node_eq_ok_iff.mpr ⟨_, locate_join located ⟨entries, found⟩ isName short, ?_⟩
  rw [Node.descend_append, found]
  simp [Node.descend, Node.entry?, entry]

/-- A path that is too long leads nowhere on any disk. -/
theorem node_congr_of_long (long : longestPath < path.utf8ByteSize) : d.node path = e.node path := by
  have located : d.locate path = e.locate path := by
    unfold locate
    rw [if_pos long, if_pos long]
  unfold node
  rw [located]
  cases here : e.locate path with
  | error failure => rfl
  | ok location =>
    obtain ⟨-, -, short, -⟩ := locate_eq_ok_iff.mp here
    exact absurd long (Nat.not_lt.mpr short)

end Disk

theorem Walkable.entry {entries : List (String × Node)} (walkable : Walkable path (.directory entries))
    (entry : entries.lookup name = some n) : Disk.IsName name ∧ Walkable (Path.join path name) n := by
  cases walkable with
  | directory short distinct named inside =>
    have among : (name, n) ∈ entries :=
      (NameMap.lookup_eq_some_iff (List.pairwise_map.mp distinct)).mp entry
    exact ⟨named _ among, inside _ among⟩

theorem Walkable.utf8ByteSize_le_below (walkable : Walkable path tree)
    (found : tree.descend way = some n) :
    path.utf8ByteSize ≤ (Path.below path way).utf8ByteSize := by
  induction way generalizing path tree with
  | nil => exact Nat.le_refl _
  | cons name way ih =>
    obtain ⟨child, entry, goesOn⟩ := Option.bind_eq_some_iff.mp found
    cases tree with
    | file bytes => cases entry
    | directory entries =>
      obtain ⟨isName, walkableChild⟩ := walkable.entry entry
      exact (Path.utf8ByteSize_le_join isName.isAbsolute_eq_false).trans (ih walkableChild goesOn)

/-- What a walk comes by is what its path leads to, unless the path is too long to be looked up. -/
theorem Walkable.node_below (walkable : Walkable path tree) (there : d.node path = .ok tree)
    (found : tree.descend way = some n)
    (short : (Path.below path way).utf8ByteSize ≤ Disk.longestPath) :
    d.node (Path.below path way) = .ok n := by
  induction way generalizing path tree with
  | nil =>
    cases found
    exact there
  | cons name way ih =>
    obtain ⟨child, entry, goesOn⟩ := Option.bind_eq_some_iff.mp found
    cases tree with
    | file bytes => cases entry
    | directory entries =>
      obtain ⟨isName, walkableChild⟩ := walkable.entry entry
      have shortChild := (walkableChild.utf8ByteSize_le_below goesOn).trans short
      exact ih walkableChild (Disk.node_join there isName entry shortChild) goesOn short

/-- Where two disks have the same file below a directory, its path leads to the same. -/
theorem Walkable.node_below_congr {other : Node} (walkable : Walkable path tree)
    (walkableToo : Walkable path other) (there : d.node path = .ok tree)
    (thereToo : e.node path = .ok other) (found : tree.descend way = some n)
    (foundToo : other.descend way = some n) :
    d.node (Path.below path way) = e.node (Path.below path way) := by
  rcases Nat.lt_or_ge Disk.longestPath (Path.below path way).utf8ByteSize with long | short
  · exact Disk.node_congr_of_long long
  · rw [walkable.node_below there found short, walkableToo.node_below thereToo foundToo short]

end LookingUp

end InstallCheck.Files
