import InstallCheck.Files.Path
import InstallCheck.Proofs.Text.Lines
import InstallCheck.Proofs.Text.Splitting

/-!
Paths as lists of names: splitting a path into its pieces and putting slashes between them are inverse
to each other, and a path begins with every path made of its first pieces.
-/
namespace InstallCheck.Files.Path

theorem pieces_eq (path : String) : pieces path = (path.toList.splitOn '/').map String.ofList :=
  String.toList_split_char

theorem pieces_ne_nil (path : String) : pieces path ≠ [] := by
  rw [pieces_eq, Ne, List.map_eq_nil_iff]
  exact List.splitOn_ne_nil '/' path.toList

theorem intercalate_pieces (path : String) : "/".intercalate (pieces path) = path := by
  rw [← String.toList_inj, String.toList_intercalate, pieces_eq, List.map_map]
  have chars : String.toList ∘ String.ofList = id := funext fun cs => String.toList_ofList
  rw [chars, List.map_id]
  exact List.intercalate_splitOn '/'

theorem not_slash_of_mem_pieces {path piece : String} (member : piece ∈ pieces path) :
    '/' ∉ piece.toList := by
  rw [pieces_eq] at member
  obtain ⟨chars, isPiece, rfl⟩ := List.mem_map.mp member
  rw [String.toList_ofList]
  exact Text.not_mem_of_mem_splitOn chars isPiece

theorem pieces_intercalate {names : List String} (some : names ≠ [])
    (separate : ∀ n ∈ names, '/' ∉ n.toList) : pieces ("/".intercalate names) = names := by
  have apart : ∀ chars ∈ names.map String.toList, '/' ∉ chars := by
    rw [List.forall_mem_map]
    exact separate
  have joined : ("/".intercalate names).toList = ['/'].intercalate (names.map String.toList) :=
    String.toList_intercalate
  rw [pieces_eq, joined, List.splitOn_intercalate '/' apart (by simpa using some), List.map_map]
  have texts : String.ofList ∘ String.toList = id := funext fun s => String.ofList_toList
  rw [texts, List.map_id]

/-- A path begins with the path made of its first pieces, before a slash if there are further ones. -/
theorem eq_append_of_pieces {path : String} {first rest : List String} (some : first ≠ [])
    (more : rest ≠ []) (all : pieces path = first ++ rest) :
    path = "/".intercalate first ++ ("/" ++ "/".intercalate rest) := by
  rw [← intercalate_pieces path, all, String.intercalate_append_of_ne_nil some more,
    String.append_assoc]

/-- A name behind a slash is a piece of its own. -/
theorem pieces_append_slash {stem name : String} (separate : '/' ∉ name.toList) :
    pieces (stem ++ "/" ++ name) = pieces stem ++ [name] := by
  have joined : stem ++ "/" ++ name = "/".intercalate (pieces stem ++ [name]) := by
    rw [String.intercalate_append_of_ne_nil (pieces_ne_nil stem) (List.cons_ne_nil name []),
      intercalate_pieces, String.intercalate_singleton]
  rw [joined]
  refine pieces_intercalate (List.append_ne_nil_of_right_ne_nil _ (List.cons_ne_nil name [])) ?_
  intro n member
  rcases List.mem_append.mp member with before | last
  · exact not_slash_of_mem_pieces before
  · exact List.mem_singleton.mp last ▸ separate

theorem pieces_slash (stem : String) : pieces (stem ++ "/") = pieces stem ++ [""] :=
  calc pieces (stem ++ "/")
    _ = pieces (stem ++ "/" ++ "") := by rw [String.append_empty]
    _ = pieces stem ++ [""] := pieces_append_slash List.not_mem_nil

theorem isAbsolute_iff {path : String} : isAbsolute path = true ↔ ['/'] <+: path.toList :=
  String.startsWith_string_iff

theorem isAbsolute_slash : isAbsolute "/" = true := isAbsolute_iff.mpr (by decide)

theorem isAbsolute_append {a b : String} (some : a ≠ "") :
    isAbsolute (a ++ b) = isAbsolute a := by
  rw [Bool.eq_iff_iff, isAbsolute_iff, isAbsolute_iff, String.toList_append]
  cases chars : a.toList with
  | nil => exact absurd (String.toList_eq_nil_iff.mp chars) some
  | cons c cs => simp

theorem exists_of_endsWith_slash {path : String} (ends : path.endsWith "/" = true) :
    ∃ stem, path = stem ++ "/" := by
  obtain ⟨chars, all⟩ := String.Slice.endsWith_string_iff.mp ends
  refine ⟨String.ofList chars, ?_⟩
  rw [← String.toList_inj, String.toList_append, String.toList_ofList, all, String.copy_toSlice]

/-- A name below a directory stands behind a slash, which the path of the directory may bring along. -/
theorem exists_stem_join {directory name : String} (named : directory ≠ "")
    (relative : isAbsolute name = false) :
    ∃ stem, join directory name = stem ++ "/" ++ name ∧ (directory = stem ∨ directory = stem ++ "/") := by
  unfold join
  by_cases ends : directory.endsWith "/" = true
  · obtain ⟨stem, rfl⟩ := exists_of_endsWith_slash ends
    exact ⟨stem, by simp [relative, ends], .inr rfl⟩
  · exact ⟨directory, by simp [relative, named, ends], .inl rfl⟩

/-- The directory of a file whose path ends in a name: the working directory, the root, or where some of
the pieces before the name lead. -/
theorem parent?_eq {path name : String} {above : List String} (all : pieces path = above ++ [name])
    (notIdle : isIdle name = false) :
    parent? path = some "" ∨ (parent? path = some "/" ∧ ∃ rest, above = "" :: rest) ∨
      ∃ first rest, first ≠ [] ∧ above = first ++ rest ∧
        parent? path = some ("/".intercalate first) := by
  have fromEnd : (pieces path).reverse.dropWhile isIdle = name :: above.reverse := by
    rw [all, List.reverse_append, List.reverse_singleton, List.singleton_append,
      List.dropWhile_cons_of_neg (by simp [notIdle])]
  unfold parent?
  rw [fromEnd]
  dsimp only
  have split : above.reverse.takeWhile isIdle ++ above.reverse.dropWhile isIdle = above.reverse :=
    List.takeWhile_append_dropWhile
  cases kept : above.reverse.dropWhile (fun piece => isIdle piece) with
  | nil =>
    -- Only idle pieces stand before the name; the first one is kept, so that a root stays one.
    rw [List.reverse_reverse]
    cases above with
    | nil => exact .inl rfl
    | cons first rest =>
      by_cases root : first = ""
      · subst root
        exact .inr (.inl ⟨rfl, rest, rfl⟩)
      · refine .inr (.inr ⟨[first], rest, List.cons_ne_nil _ _, rfl, ?_⟩)
        simp
  | cons last before =>
    refine .inr (.inr ⟨(last :: before).reverse, (above.reverse.takeWhile isIdle).reverse, ?_, ?_, rfl⟩)
    · simp
    · rw [← List.reverse_append, ← kept, split, List.reverse_reverse]

/-- The last piece of a name between its dots is its extension, unless only one dot stands before it and
begins the name. -/
theorem nameExtension?_of_pieces {name last : String} {before : List String} (some : before ≠ [])
    (notHidden : before ≠ [""])
    (apart : (name.toList.splitOn '.').map String.ofList = before ++ [last]) :
    nameExtension? name = .some last := by
  have dot : "." = String.ofList ['.'] := rfl
  obtain ⟨next, others, fromEnd⟩ := List.exists_cons_of_ne_nil (List.reverse_ne_nil_iff.mpr some)
  have shown : next :: others ≠ [""] := by
    rw [← fromEnd, Ne, List.reverse_eq_iff]
    exact notHidden
  have pieces : (name.splitOn ".").reverse = last :: next :: others := by
    rw [dot, Text.splitOn_char, apart, List.reverse_append, fromEnd, List.reverse_singleton,
      List.singleton_append]
  simp only [nameExtension?, pieces, if_neg shown]

end InstallCheck.Files.Path
