import InstallCheck.Files.Tree
import InstallCheck.Proofs.Files.Path
import InstallCheck.Proofs.NameMap

/-!
Writing a file and reading it back. A file that can be written can be read under the same path
afterwards; all directories stay directories, and none had to be made for it.
-/
namespace InstallCheck.Files

namespace Node

def HasDirectory (tree : Node) (way : List String) : Prop :=
  ∃ entries, tree.descend way = some (directory entries)

variable {tree new : Node} {name : String} {way rest : List String}

theorem descend_append {way rest : List String} :
    tree.descend (way ++ rest) = tree.descend way >>= descend rest := by
  induction way generalizing tree with
  | nil => rfl
  | cons name way ih =>
    simp only [List.cons_append, descend]
    cases tree.entry? name with
    | none => rfl
    | some below => exact ih

theorem hasDirectory_of_descend_append {n : Node} (more : rest ≠ [])
    (found : tree.descend (way ++ rest) = some n) : tree.HasDirectory way := by
  rw [descend_append] at found
  obtain ⟨above, there, below⟩ := Option.bind_eq_some_iff.mp found
  obtain ⟨name, others, rfl⟩ := List.exists_cons_of_ne_nil more
  cases above with
  | file bytes => cases below
  | directory entries => exact ⟨entries, there⟩

theorem lookup_putEntry {n : Node} {other : String} {entries : List (String × Node)} :
    (putEntry name n entries).lookup other = if other = name then some n else entries.lookup other := by
  induction entries with
  | nil => exact NameMap.lookup_cons_eq
  | cons entry entries ih =>
    obtain ⟨first, m⟩ := entry
    rw [NameMap.lookup_cons_eq, putEntry]
    by_cases here : first = name
    · subst here
      rw [if_pos rfl, NameMap.lookup_cons_eq]
      split <;> rfl
    · rw [if_neg here, NameMap.lookup_cons_eq, ih]
      by_cases found : other = first
      · simp [found, here]
      · simp [found]

theorem hasDirectory_cons :
    tree.HasDirectory (name :: way) ↔
      ∃ entries below, tree = directory entries ∧ entries.lookup name = some below ∧
        below.HasDirectory way := by
  constructor
  · rintro ⟨last, found⟩
    obtain ⟨below, entry, there⟩ := Option.bind_eq_some_iff.mp found
    cases tree with
    | file bytes => cases entry
    | directory entries => exact ⟨entries, below, rfl, entry, last, there⟩
  · rintro ⟨entries, below, rfl, entry, last, there⟩
    exact ⟨last, Option.bind_eq_some_iff.mpr ⟨below, entry, there⟩⟩

theorem hasDirectory_nil : tree.HasDirectory [] ↔ ∃ entries, tree = directory entries := by
  simp [HasDirectory, descend]

/-- What has been put at the end of a way through directories is there. -/
theorem descend_put (above : tree.HasDirectory way) :
    (tree.put (way ++ [name]) new).descend (way ++ [name]) = some new := by
  induction way generalizing tree with
  | nil =>
    obtain ⟨entries, rfl⟩ := hasDirectory_nil.mp above
    have put : (directory entries).put [name] new = directory (putEntry name new entries) := by
      unfold Node.put
      cases entries.lookup name <;> simp [Node.put]
    simp [put, descend, entry?, lookup_putEntry]
  | cons step way ih =>
    obtain ⟨entries, below, rfl, entry, there⟩ := hasDirectory_cons.mp above
    simp [Node.put, entry, descend, entry?, lookup_putEntry, ih there]

/-- Putting something where there is no directory leaves every directory a directory. -/
theorem HasDirectory.put {place : List String} (there : tree.HasDirectory way)
    (free : ¬ tree.HasDirectory place) : (tree.put place new).HasDirectory way := by
  induction place generalizing tree way with
  | nil =>
    cases tree with
    | directory entries => exact absurd (hasDirectory_nil.mpr ⟨entries, rfl⟩) free
    | file bytes =>
      -- There is no directory in a file, so the way leads nowhere.
      cases way with
      | nil =>
        obtain ⟨_, impossible⟩ := hasDirectory_nil.mp there
        cases impossible
      | cons step way =>
        obtain ⟨_, _, impossible, -⟩ := hasDirectory_cons.mp there
        cases impossible
  | cons name place ih =>
    cases tree with
    | file bytes => simpa [Node.put] using there
    | directory entries =>
      cases way with
      | nil =>
        cases entry : entries.lookup name with
        | none => by_cases last : place.isEmpty <;> simp [Node.put, entry, last, hasDirectory_nil]
        | some below => simp [Node.put, entry, hasDirectory_nil]
      | cons step way =>
        obtain ⟨_, below, same, entry, within⟩ := hasDirectory_cons.mp there
        cases same
        by_cases onTheWay : step = name
        · subst onTheWay
          have belowFree : ¬ below.HasDirectory place := fun found =>
            free (hasDirectory_cons.mpr ⟨entries, below, rfl, entry, found⟩)
          simp [Node.put, entry, hasDirectory_cons, lookup_putEntry, ih within belowFree]
        · have kept (n : Node) : (putEntry name n entries).lookup step = some below := by
            rw [lookup_putEntry, if_neg onTheWay, entry]
          cases entryThere : entries.lookup name with
          | none =>
            by_cases last : place.isEmpty <;>
              simp [Node.put, entryThere, last, hasDirectory_cons, kept, entry, within]
          | some other => simp [Node.put, entryThere, hasDirectory_cons, kept, within]

end Node

theorem bind_eq_ok_iff {ε α β : Type} {x : Except ε α} {f : α → Except ε β} {b : β} :
    x >>= f = .ok b ↔ ∃ a, x = .ok a ∧ f a = .ok b := by
  cases x with
  | error e =>
    constructor
    · intro impossible
      cases impossible
    · rintro ⟨_, impossible, -⟩
      cases impossible
  | ok a =>
    constructor
    · exact fun goesOn => ⟨a, rfl, goesOn⟩
    · rintro ⟨_, same, goesOn⟩
      cases same
      exact goesOn

namespace Disk

variable {d e : Disk} {path content piece name : String} {start location way : List String}

/-- Where the lookup of a path begins. -/
def origin (d : Disk) (path : String) : List String :=
  if Path.isAbsolute path then [] else d.workingDirectory

theorem locate_eq_ok_iff :
    d.locate path = .ok location ↔
      path ≠ "" ∧ '\x00' ∉ path.toList ∧ path.utf8ByteSize ≤ longestPath ∧
        (Path.pieces path).foldlM d.step (d.origin path) = .ok location := by
  unfold locate origin
  rw [String.contains_char_eq]
  by_cases empty : path = ""
  · simp [empty]
  · by_cases invalid : '\x00' ∈ path.toList
    · simp [empty, invalid]
    · by_cases long : longestPath < path.utf8ByteSize
      · simp [empty, invalid, long]
      · simp [empty, invalid, long, Nat.not_lt.mp long]

theorem hasDirectory_of_step (step : d.step way piece = .ok location) : d.root.HasDirectory way := by
  unfold Disk.step at step
  split at step
  · cases step
  · cases step
  · exact ⟨_, ‹_›⟩

/-- A step goes to a name in the directory or leads to a directory. -/
theorem step_cases (step : d.step way piece = .ok location) :
    d.root.HasDirectory location ∨ (Path.isIdle piece = false ∧ location = way ++ [piece]) := by
  have here := hasDirectory_of_step step
  have ⟨entries, found⟩ := here
  simp only [Disk.step, found] at step
  split at step
  · cases step
    exact .inl here
  · rename_i notIdle
    split at step
    · cases step
      -- Above the root there is the root again.
      rcases List.eq_nil_or_concat way with rfl | ⟨above, last, rfl⟩
      · exact .inl here
      · left
        rw [List.concat_eq_append, List.dropLast_concat]
        rw [List.concat_eq_append] at found
        exact Node.hasDirectory_of_descend_append (List.cons_ne_nil _ _) found
    · split at step
      · cases step
      · cases step
        exact .inr ⟨by simpa using notIdle, rfl⟩

theorem step_congr (here : d.root.HasDirectory way) (there : e.root.HasDirectory way) :
    e.step way piece = d.step way piece := by
  obtain ⟨_, foundHere⟩ := here
  obtain ⟨_, foundThere⟩ := there
  simp only [Disk.step, foundHere, foundThere]

/-- A path leads where it led as long as directories stay directories. -/
theorem foldlM_step_congr (kept : ∀ way, d.root.HasDirectory way → e.root.HasDirectory way)
    {pieces : List String} (walk : pieces.foldlM d.step start = .ok location) :
    pieces.foldlM e.step start = .ok location := by
  induction pieces generalizing start with
  | nil => exact walk
  | cons piece pieces ih =>
    rw [List.foldlM_cons] at walk ⊢
    obtain ⟨next, step, walk⟩ := bind_eq_ok_iff.mp walk
    have here := hasDirectory_of_step step
    exact bind_eq_ok_iff.mpr ⟨next, (step_congr here (kept _ here)).trans step, ih walk⟩

theorem locate_congr (kept : ∀ way, d.root.HasDirectory way → e.root.HasDirectory way)
    (same : e.workingDirectory = d.workingDirectory) (located : d.locate path = .ok location) :
    e.locate path = .ok location := by
  obtain ⟨some, valid, short, walk⟩ := locate_eq_ok_iff.mp located
  have origins : e.origin path = d.origin path := by rw [origin, origin, same]
  rw [← origins] at walk
  exact locate_eq_ok_iff.mpr ⟨some, valid, short, foldlM_step_congr kept walk⟩

theorem readText_of_node {bytes : List UInt8} {text : String}
    (there : d.node path = .ok (.file bytes)) (legible : Text.ofUtf8? bytes = some text) :
    d.readText path = .ok text := by
  simp only [readText, read, there, bind, Except.bind, pure, Except.pure, legible]

section Writing

theorem node_eq_ok_iff {n : Node} :
    d.node path = .ok n ↔ ∃ location, d.locate path = .ok location ∧ d.root.descend location = some n := by
  unfold node
  cases d.locate path with
  | error failure => simp [bind, Except.bind]
  | ok location =>
    cases found : d.root.descend location <;>
      simp [bind, Except.bind, found, pure, Except.pure, throw, throwThe, MonadExceptOf.throw]

/-- Writing puts the file where its path leads, which is no directory. -/
theorem put_of_write (written : d.write path content = .ok e) :
    ∃ location, d.locate path = .ok location ∧ ¬ d.root.HasDirectory location ∧
      e = { d with root := d.root.put location (.file content.toUTF8.toList) } := by
  have noDirectory : ¬ ∃ entries, d.node path = .ok (.directory entries) := by
    rintro ⟨entries, found⟩
    rw [write, found] at written
    cases written
  cases located : d.locate path with
  | error failure =>
    unfold write at written
    rw [located] at written
    revert written
    split
    · exact fun written => nomatch written
    · split
      · exact fun written => nomatch written
      · exact fun written => nomatch written
    · exact fun written => nomatch written
  | ok location =>
    refine ⟨location, rfl, ?_, ?_⟩
    · rintro ⟨entries, found⟩
      exact noDirectory ⟨entries, node_eq_ok_iff.mpr ⟨location, located, found⟩⟩
    · unfold write at written
      rw [located] at written
      revert written
      split
      · exact fun written => nomatch written
      · split
        · exact fun written => nomatch written
        · exact fun written => (Except.ok.inj written).symm
      · exact fun written => (Except.ok.inj written).symm

/-- A path that does not lead to a directory ends in a name, which stands in a directory. -/
theorem exists_name_of_locate (located : d.locate path = .ok location)
    (free : ¬ d.root.HasDirectory location) :
    ∃ above name way, Path.pieces path = above ++ [name] ∧ Path.isIdle name = false ∧
      above.foldlM d.step (d.origin path) = .ok way ∧ d.root.HasDirectory way ∧
      location = way ++ [name] := by
  obtain ⟨-, -, -, walk⟩ := locate_eq_ok_iff.mp located
  obtain ⟨above, name, all⟩ :=
    (List.eq_nil_or_concat' (Path.pieces path)).resolve_left (Path.pieces_ne_nil path)
  rw [all, List.foldlM_append] at walk
  obtain ⟨way, before, last⟩ := bind_eq_ok_iff.mp walk
  have step : d.step way name = .ok location := by simpa using last
  rcases step_cases step with directory | ⟨notIdle, rfl⟩
  · exact absurd directory free
  · exact ⟨above, name, way, all, notIdle, before, hasDirectory_of_step step, rfl⟩

theorem hasDirectory_of_write (written : d.write path content = .ok e) (there : d.root.HasDirectory way) :
    e.root.HasDirectory way := by
  obtain ⟨location, -, free, rfl⟩ := put_of_write written
  exact there.put free

theorem locate_of_write (written : d.write path content = .ok e) {other : String}
    (located : d.locate other = .ok location) : e.locate other = .ok location := by
  have kept (way : List String) : d.root.HasDirectory way → e.root.HasDirectory way :=
    hasDirectory_of_write written
  obtain ⟨_, -, -, rfl⟩ := put_of_write written
  exact locate_congr kept rfl located

theorem node_of_write (written : d.write path content = .ok e) :
    e.node path = .ok (.file content.toUTF8.toList) := by
  obtain ⟨location, located, free, made⟩ := put_of_write written
  obtain ⟨above, name, way, -, -, -, there, rfl⟩ := exists_name_of_locate located free
  refine node_eq_ok_iff.mpr ⟨way ++ [name], locate_of_write written located, ?_⟩
  rw [made]
  exact Node.descend_put there

/-- **What is written is read back.** -/
theorem read_of_write (written : d.write path content = .ok e) :
    e.read path = .ok content.toUTF8.toList := by
  rw [read, node_of_write written]
  rfl

theorem hasFile_of_write (written : d.write path content = .ok e) : e.hasFile path = true := by
  rw [hasFile, node_of_write written]

end Writing

section Names

/-- A text that a file in the directory in which a program runs can have as its name. -/
def IsName (name : String) : Prop :=
  name ≠ "" ∧ name ≠ "." ∧ name ≠ ".." ∧ '\x00' ∉ name.toList ∧ '/' ∉ name.toList ∧
    name.utf8ByteSize ≤ longestName

instance (name : String) : Decidable (IsName name) := inferInstanceAs (Decidable (_ ∧ _))

theorem IsName.pieces_eq (isName : IsName name) : Path.pieces name = [name] := by
  obtain ⟨-, -, -, -, noSlash, -⟩ := isName
  exact Path.pieces_intercalate (List.cons_ne_nil name []) (by simpa using noSlash)

theorem IsName.isIdle_eq_false (isName : IsName name) : Path.isIdle name = false := by
  obtain ⟨some, notHere, -⟩ := isName
  simp [Path.isIdle, some, notHere]

theorem IsName.isAbsolute_eq_false (isName : IsName name) : Path.isAbsolute name = false := by
  obtain ⟨-, -, -, -, noSlash, -⟩ := isName
  refine Bool.eq_false_iff.mpr fun absolute => noSlash ?_
  obtain ⟨rest, chars⟩ := Path.isAbsolute_iff.mp absolute
  rw [← chars]
  exact List.mem_append_left rest (List.mem_singleton_self '/')

theorem IsName.extension?_eq (isName : IsName name) :
    Path.extension? name = Path.nameExtension? name := by
  have pieces := isName.pieces_eq
  have kept := isName.isIdle_eq_false
  obtain ⟨-, -, notAbove, -⟩ := isName
  simp [Path.extension?, Path.fileName?, pieces, kept, notAbove]

/-- A name leads to an entry of the directory in which the program runs. -/
theorem IsName.locate (isName : IsName name) (here : d.root.HasDirectory d.workingDirectory) :
    d.locate name = .ok (d.workingDirectory ++ [name]) := by
  have pieces := isName.pieces_eq
  have kept := isName.isIdle_eq_false
  have relative := isName.isAbsolute_eq_false
  obtain ⟨some, -, notAbove, noNul, -, short⟩ := isName
  obtain ⟨entries, found⟩ := here
  refine locate_eq_ok_iff.mpr ⟨some, noNul, short.trans (by decide), ?_⟩
  rw [pieces, origin, relative]
  simp [Disk.step, found, kept, notAbove, Nat.not_lt.mpr short]

theorem IsName.node {n : Node} (isName : IsName name)
    (found : d.root.descend (d.workingDirectory ++ [name]) = some n) : d.node name = .ok n :=
  node_eq_ok_iff.mpr
    ⟨_, isName.locate (Node.hasDirectory_of_descend_append (List.cons_ne_nil name []) found), found⟩

end Names

section Directories

theorem makeDirectory_of_present (step : d.step way piece = .ok location)
    (present : (d.root.descend location).isSome) : d.makeDirectory way piece = .ok (d, location) := by
  obtain ⟨n, found⟩ := Option.isSome_iff_exists.mp present
  simp only [makeDirectory, step, bind, Except.bind, found, pure, Except.pure]

theorem makeDirectory_idle (here : d.root.HasDirectory way) (idle : Path.isIdle piece = true) :
    d.makeDirectory way piece = .ok (d, way) := by
  have ⟨entries, found⟩ := here
  refine makeDirectory_of_present ?_ (by simp [found])
  simp [Disk.step, found, idle]

/-- Where further pieces of a path follow, nothing has to be made for the first ones. -/
theorem foldlM_makeDirectory {first rest : List String} (more : rest ≠ [])
    (walk : (first ++ rest).foldlM d.step start = .ok location) :
    ∃ way, d.root.HasDirectory way ∧
      first.foldlM (fun (disk, location) piece => disk.makeDirectory location piece) (d, start) =
        .ok (d, way) := by
  induction first generalizing start with
  | nil =>
    obtain ⟨piece, others, rfl⟩ := List.exists_cons_of_ne_nil more
    obtain ⟨_, step, -⟩ := bind_eq_ok_iff.mp walk
    exact ⟨start, hasDirectory_of_step step, rfl⟩
  | cons piece first ih =>
    rw [List.cons_append, List.foldlM_cons] at walk
    obtain ⟨place, step, walk⟩ := bind_eq_ok_iff.mp walk
    -- The piece after this one is looked for in a directory, so this one is there.
    have present : (d.root.descend place).isSome := by
      obtain ⟨next, others, follows⟩ :=
        List.exists_cons_of_ne_nil (List.append_ne_nil_of_right_ne_nil first more)
      rw [follows] at walk
      obtain ⟨_, stepAfter, -⟩ := bind_eq_ok_iff.mp walk
      obtain ⟨entries, there⟩ := hasDirectory_of_step stepAfter
      simp [there]
    obtain ⟨way, there, made⟩ := ih walk
    refine ⟨way, there, ?_⟩
    rw [List.foldlM_cons]
    exact bind_eq_ok_iff.mpr ⟨_, makeDirectory_of_present step present, made⟩

theorem makeDirectories_of_foldlM {parent : String} (valid : '\x00' ∉ parent.toList)
    (short : parent.utf8ByteSize ≤ longestPath) (there : d.root.HasDirectory way)
    (made : parent ≠ "" → (Path.pieces parent).foldlM
      (fun (disk, location) piece => disk.makeDirectory location piece) (d, d.origin parent) =
        .ok (d, way)) :
    d.makeDirectories parent = .ok d := by
  unfold makeDirectories
  by_cases empty : parent = ""
  · rw [if_pos empty]
    rfl
  · have ⟨entries, found⟩ := there
    rw [String.contains_char_eq]
    simp only [if_neg empty, valid, decide_false, Bool.false_eq_true, if_false,
      if_neg (Nat.not_lt.mpr short)]
    refine bind_eq_ok_iff.mpr ⟨(d, way), made empty, ?_⟩
    simp only [found]
    rfl

/-- A file that can be written lies in a directory that is there, so none is made for it. -/
theorem makeDirectories_parent (written : d.write path content = .ok e) {parent : String}
    (above : Path.parent? path = some parent) : d.makeDirectories parent = .ok d := by
  obtain ⟨location, located, free, -⟩ := put_of_write written
  obtain ⟨pieces, name, way, all, notIdle, -, there, rfl⟩ := exists_name_of_locate located free
  obtain ⟨-, valid, short, walk⟩ := locate_eq_ok_iff.mp located
  rcases Path.parent?_eq all notIdle with none | ⟨root, rest, rfl⟩ | ⟨first, rest, some, rfl, fromFirst⟩
  · cases above.symm.trans none
    exact makeDirectories_of_foldlM (by decide) (by decide) there fun empty => absurd rfl empty
  · cases above.symm.trans root
    have fromRoot : d.origin path = [] := by
      have split := Path.eq_append_of_pieces (List.cons_ne_nil "" [])
        (List.append_ne_nil_of_right_ne_nil rest (List.cons_ne_nil name [])) all
      rw [String.intercalate_singleton, String.empty_append] at split
      rw [origin, split, Path.isAbsolute_append (by decide), if_pos Path.isAbsolute_slash]
    rw [all, fromRoot] at walk
    obtain ⟨_, step, -⟩ := bind_eq_ok_iff.mp walk
    have here := hasDirectory_of_step step
    refine makeDirectories_of_foldlM (by decide) (by decide) here fun _ => ?_
    have slash : Path.pieces "/" = ["", ""] := by
      rw [Path.pieces_eq]
      decide
    have idle := makeDirectory_idle here (by decide : Path.isIdle "" = true)
    rw [slash, List.foldlM_cons, origin, if_pos Path.isAbsolute_slash]
    refine bind_eq_ok_iff.mpr ⟨_, idle, ?_⟩
    rw [List.foldlM_cons]
    exact bind_eq_ok_iff.mpr ⟨_, idle, rfl⟩
  · cases above.symm.trans fromFirst
    have more : rest ++ [name] ≠ [] := List.append_ne_nil_of_right_ne_nil rest (List.cons_ne_nil _ _)
    rw [List.append_assoc] at all
    have split := Path.eq_append_of_pieces some more all
    rw [all] at walk
    obtain ⟨inside, present, made⟩ := foldlM_makeDirectory more walk
    refine makeDirectories_of_foldlM ?_ ?_ present fun nonempty => ?_
    · rw [split, String.toList_append] at valid
      exact fun found => valid (List.mem_append_left _ found)
    · rw [split, String.utf8ByteSize_append] at short
      exact Nat.le_of_add_right_le short
    · have names : ∀ n ∈ first, '/' ∉ n.toList := fun n member =>
        Path.not_slash_of_mem_pieces (all ▸ List.mem_append_left _ member)
      have origins : d.origin ("/".intercalate first) = d.origin path := by
        rw [split, origin, origin, Path.isAbsolute_append nonempty]
      rw [Path.pieces_intercalate some names, origins]
      exact made

end Directories

end Disk

end InstallCheck.Files
