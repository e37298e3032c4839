import InstallCheck.Duration
import Mathlib

/-!
The lines of a text. Texts that are put together with line breaks between them can be told apart again
exactly when none of them has a line break of its own.
-/
namespace InstallCheck

namespace Text

/-- The pieces of a text between its line breaks. -/
def lines (text : String) : List String := (text.split '\n').toList.map String.Slice.copy

def SingleLine (text : String) : Prop := '\n' ∉ text.toList

instance (text : String) : Decidable (SingleLine text) := inferInstanceAs (Decidable (_ ∉ _))

theorem lines_eq (text : String) : lines text = (text.toList.splitOn '\n').map String.ofList :=
  String.toList_split_char

theorem singleLine_ofList {chars : List Char} : SingleLine (String.ofList chars) ↔ '\n' ∉ chars := by
  rw [SingleLine, String.toList_ofList]

@[simp] theorem singleLine_append {a b : String} :
    SingleLine (a ++ b) ↔ SingleLine a ∧ SingleLine b := by
  simp only [SingleLine, String.toList_append, List.mem_append, not_or]

theorem singleLine_join {texts : List String} :
    SingleLine (String.join texts) ↔ ∀ t ∈ texts, SingleLine t := by
  simp only [SingleLine, String.toList_join, List.mem_flatMap, not_exists, not_and]

theorem singleLine_intercalate {separator : String} (single : SingleLine separator)
    {texts : List String} :
    SingleLine (separator.intercalate texts) ↔ ∀ t ∈ texts, SingleLine t := by
  induction texts with
  | nil => simp [SingleLine]
  | cons first rest ih =>
    cases rest with
    | nil => simp
    | cons second rest =>
      rw [String.intercalate_cons_cons, singleLine_append, singleLine_append, ih,
        List.forall_mem_cons]
      simp [single]

theorem singleLine_nat (n : Nat) : SingleLine (toString n) := by
  intro found
  have digit : '\n' ∈ Nat.toDigits 10 n := by simpa using found
  exact absurd (Nat.isDigit_of_mem_toDigits (by decide) (by decide) digit) (by decide)

theorem not_mem_of_mem_splitOn {α : Type} [DecidableEq α] {a : α} {xs : List α} :
    ∀ piece ∈ xs.splitOn a, a ∉ piece := by
  induction xs with
  | nil => simp
  | cons x xs ih =>
    rw [List.splitOn_cons_eq_if_modifyHead]
    split
    · simpa using ih
    · rename_i differs
      have other : a ≠ x := fun same => differs (by simp [same])
      -- The element goes to the front of the first piece, and the other pieces stay as they are.
      cases pieces : xs.splitOn a with
      | nil => simp
      | cons first rest =>
        rw [pieces, List.forall_mem_cons] at ih
        rw [List.modifyHead_cons, List.forall_mem_cons]
        exact ⟨fun found => (List.mem_cons.mp found).elim other ih.1, ih.2⟩

theorem singleLine_of_mem_lines {text line : String} (member : line ∈ lines text) :
    SingleLine line := by
  rw [lines_eq] at member
  obtain ⟨piece, isPiece, rfl⟩ := List.mem_map.mp member
  exact singleLine_ofList.mpr (not_mem_of_mem_splitOn piece isPiece)

/-- Texts with line breaks between them are the lines of the whole exactly when none of them has a line
break of its own. -/
theorem lines_intercalate_iff {texts : List String} (some : texts ≠ []) :
    lines ("\n".intercalate texts) = texts ↔ ∀ t ∈ texts, SingleLine t := by
  constructor
  · intro same t member
    rw [← same] at member
    exact singleLine_of_mem_lines member
  · intro single
    have apart : ∀ chars ∈ texts.map String.toList, '\n' ∉ chars := by
      simpa [SingleLine] using single
    have joined : ("\n".intercalate texts).toList =
        ['\n'].intercalate (texts.map String.toList) := by
      rw [String.toList_intercalate]
      rfl
    rw [lines_eq, joined, List.splitOn_intercalate '\n' apart (by simpa using some)]
    simp

end Text

namespace Duration

open Text (SingleLine singleLine_append singleLine_ofList singleLine_nat)

theorem not_newline_of_mem_lowDigits {width n : Nat} : '\n' ∉ lowDigits width n := by
  induction width generalizing n with
  | zero => exact List.not_mem_nil
  | succ width ih =>
    rw [lowDigits, List.mem_append, List.mem_singleton, not_or]
    refine ⟨ih, fun same => ?_⟩
    have digit : (Nat.digitChar (n % 10)).isDigit := by
      have below := Nat.mod_lt n (by decide : 10 > 0)
      interval_cases n % 10 <;> decide
    rw [← same] at digit
    exact absurd digit (by decide)

theorem singleLine_decimal (n places : Nat) : SingleLine (decimal n places) := by
  unfold decimal
  rw [singleLine_append]
  refine ⟨singleLine_nat _, ?_⟩
  split
  · decide
  · refine singleLine_append.mpr ⟨by decide, singleLine_ofList.mpr fun found => ?_⟩
    have among : '\n' ∈ lowDigits places (n % Nat.pow 10 places) := by
      rw [dropTrailingZeros, List.mem_reverse] at found
      exact List.mem_reverse.mp ((List.dropWhile_sublist _).subset found)
    exact not_newline_of_mem_lowDigits among

theorem singleLine_text (d : Duration) : SingleLine d.text := by
  have unit (name : String) (single : SingleLine name) (places : Nat) :
      SingleLine (decimal d.nanos places ++ name) :=
    singleLine_append.mpr ⟨singleLine_decimal _ _, single⟩
  unfold text
  split
  · exact unit _ (by decide) _
  · split
    · exact unit _ (by decide) _
    · split
      · exact unit _ (by decide) _
      · exact unit _ (by decide) _

end Duration

end InstallCheck
