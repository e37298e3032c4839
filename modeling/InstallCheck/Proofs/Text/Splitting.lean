import Mathlib.Data.String.Basic

/-!
Splitting a text at a separator of one character: it comes apart just as its list of characters does,
and the pieces with the separator between them are the text again.
-/
namespace InstallCheck.Text

open String (Pos.Raw.atEnd Pos.Raw.extract Pos.Raw.get Pos.Raw.next utf8Len)

theorem atEnd_ofList_iff (before rest : List Char) :
    Pos.Raw.atEnd (.ofList (before ++ rest)) ⟨utf8Len before⟩ = true ↔ rest = [] := by
  rw [String.atEnd_iff, String.rawEndPos_ofList, String.Pos.Raw.mk_le_mk, String.utf8Len_append,
    ← String.utf8Len_eq_zero]
  omega

theorem utf8Len_concat (before : List Char) (c : Char) :
    utf8Len (before ++ [c]) = utf8Len before + c.utf8Size := by
  rw [String.utf8Len_append, String.utf8Len_cons, String.utf8Len_nil, Nat.zero_add]

theorem extract_ofList (before piece rest : List Char) :
    Pos.Raw.extract (.ofList (before ++ piece ++ rest)) ⟨utf8Len before⟩ ⟨utf8Len (before ++ piece)⟩ =
      .ofList piece := by
  rw [String.utf8Len_append]
  exact String.extract_of_valid before piece rest

/-- Splitting goes on behind the pieces that have been found, with the beginning of the next one. -/
theorem splitOnAux_char (c : Char) (before piece rest : List Char) (found : List String) :
    (String.ofList (before ++ piece ++ rest)).splitOnAux (.ofList [c]) ⟨utf8Len before⟩
        ⟨utf8Len (before ++ piece)⟩ 0 found =
      found.reverse ++ (rest.splitOnPPrepend (· == c) piece.reverse).map .ofList := by
  -- The scan reads the rest; every separator in it moves what lies behind the scan.
  induction rest generalizing before piece found with
  | nil =>
    rw [String.splitOnAux, if_pos ((atEnd_ofList_iff _ _).mpr rfl), extract_ofList]
    simp only [List.reverse_cons, List.splitOnPPrepend_nil, List.reverse_reverse, List.map_singleton]
  | cons x rest ih =>
    have more : ¬ Pos.Raw.atEnd (.ofList (before ++ piece ++ x :: rest))
        ⟨utf8Len (before ++ piece)⟩ = true :=
      (atEnd_ofList_iff _ _).not.mpr (List.cons_ne_nil x rest)
    have here : Pos.Raw.get (.ofList (before ++ piece ++ x :: rest)) ⟨utf8Len (before ++ piece)⟩ = x :=
      String.get_of_valid _ _
    have separator : Pos.Raw.get (.ofList [c]) 0 = c := String.get_of_valid [] [c]
    have behind : Pos.Raw.next (.ofList [c]) 0 = ⟨utf8Len [c]⟩ := String.next_of_valid [] c []
    have whole : Pos.Raw.atEnd (.ofList [c]) ⟨utf8Len [c]⟩ = true :=
      (atEnd_ofList_iff [c] []).mpr rfl
    have back (i : String.Pos.Raw) : i.unoffsetBy 0 = i := rfl
    rw [String.splitOnAux, if_neg more, here, separator, List.splitOnPPrepend_cons_eq_if]
    by_cases same : (x == c) = true
    · -- What was read since the last separator is a piece, and the next one begins here.
      obtain rfl := beq_iff_eq.mp same
      have atSeparator : (⟨utf8Len (before ++ piece) + x.utf8Size⟩ : String.Pos.Raw).unoffsetBy
          ⟨utf8Len [x]⟩ = ⟨utf8Len (before ++ piece)⟩ := by
        simp [String.Pos.Raw.unoffsetBy]
      have others := ih (before ++ piece ++ [x]) [] (.ofList piece :: found)
      rw [if_pos same, if_pos same, behind, if_pos whole, String.next_of_valid, atSeparator,
        extract_ofList, ← utf8Len_concat]
      simpa only [List.append_assoc, List.singleton_append, List.append_nil, List.nil_append,
        List.reverse_cons, List.reverse_nil, List.reverse_reverse, List.map_cons,
        List.splitOnP_eq_splitOnPPrepend] using others
    · have others := ih before (piece ++ [x]) found
      rw [if_neg same, if_neg same, back, String.next_of_valid, ← utf8Len_concat]
      simpa only [List.append_assoc, List.singleton_append, List.reverse_append,
        List.reverse_singleton] using others

theorem splitOn_char (c : Char) (text : String) :
    text.splitOn (.ofList [c]) = (text.toList.splitOn c).map .ofList := by
  have all := splitOnAux_char c [] [] text.toList []
  have some : ¬ (String.ofList [c] == "") = true := by simp
  rw [String.splitOn, if_neg some, List.splitOn, List.splitOnP_eq_splitOnPPrepend]
  simpa using all

section Pieces

variable {α : Type} [DecidableEq α] {a : α} {xs : List α}

/-- The pieces are what stands before the first separator and the pieces of what stands behind it. -/
theorem splitOn_of_mem (found : a ∈ xs) :
    xs.splitOn a = xs.takeWhile (· ≠ a) :: (xs.dropWhile (· ≠ a)).tail.splitOn a := by
  obtain ⟨before, behind, rfl, first⟩ := List.eq_append_cons_of_mem found
  have others : ∀ x ∈ before, decide (x ≠ a) = true := by
    intro x member
    exact decide_eq_true fun same => first (same ▸ member)
  rw [List.splitOn_append_cons_self_of_not_mem first, List.takeWhile_append_of_pos others,
    List.dropWhile_append_of_pos others]
  simp

/-- There is one piece more than there are separators. -/
theorem length_splitOn (a : α) (xs : List α) : (xs.splitOn a).length = xs.count a + 1 := by
  induction xs with
  | nil => simp
  | cons x xs ih =>
    rw [List.splitOn_cons_eq_if_modifyHead, List.count_cons]
    split <;> simp [ih]

end Pieces

theorem intercalate_splitOn_char (c : Char) (text : String) :
    (String.ofList [c]).intercalate (text.splitOn (.ofList [c])) = text := by
  apply String.toList_injective
  rw [String.toList_intercalate, splitOn_char]
  simp [List.intercalate_splitOn]

theorem splitOn_intercalate_char (c : Char) {texts : List String} (some : texts ≠ [])
    (apart : ∀ t ∈ texts, c ∉ t.toList) :
    ((String.ofList [c]).intercalate texts).splitOn (.ofList [c]) = texts := by
  have single : ∀ chars ∈ texts.map String.toList, c ∉ chars := by simpa using apart
  rw [splitOn_char, String.toList_intercalate, String.toList_ofList,
    List.splitOn_intercalate c single (by simpa using some)]
  simp

end InstallCheck.Text
