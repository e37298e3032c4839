import InstallCheck.Field.Issue
import InstallCheck.Proofs.Text.Lines

/-!
How a report reads line by line. The value and the detail of an issue stand in its text as they are, so
one with a line break tears the issue apart.
-/
namespace InstallCheck.Field

open Text (SingleLine singleLine_append singleLine_join singleLine_intercalate singleLine_nat)

namespace Path

variable {p : Path} {name : String}

theorem singleLine_text_iff :
    SingleLine p.text ↔ SingleLine p.root ∧ ∀ step ∈ p.below, SingleLine (segmentText step) := by
  rw [text, singleLine_append, singleLine_join, List.forall_mem_map]

theorem singleLine_top : SingleLine (top name).text ↔ SingleLine name := by
  simp [singleLine_text_iff, top]

theorem singleLine_child : SingleLine (p.child name).text ↔ SingleLine p.text ∧ SingleLine name := by
  have dot : SingleLine "." := by decide
  simp [singleLine_text_iff, child, or_imp, forall_and, segmentText, dot, and_assoc]

theorem singleLine_index {position : Nat} :
    SingleLine (p.index position).text ↔ SingleLine p.text := by
  have bracketed : SingleLine (segmentText (.index position)) := by
    have left : SingleLine "[" := by decide
    have right : SingleLine "]" := by decide
    exact singleLine_append.mpr ⟨singleLine_append.mpr ⟨left, singleLine_nat position⟩, right⟩
  simp [singleLine_text_iff, index, or_imp, forall_and, bracketed]

end Path

theorem Issue.Kind.singleLine_label (kind : Kind) : SingleLine kind.label := by
  cases kind <;> decide

namespace Issue

/-- An issue is one line exactly when its place, the value that it shows and its detail are. -/
theorem singleLine_text_iff {i : Issue} :
    SingleLine i.text ↔
      SingleLine i.path.text ∧ (i.kind.showsValue = true → SingleLine i.value) ∧
        SingleLine i.detail := by
  have colon : SingleLine ": " := by decide
  have opening : SingleLine ": \"" := by decide
  have closing : SingleLine "\"" := by decide
  have shown : SingleLine (if i.kind.showsValue then ": \"" ++ i.value ++ "\"" else "") ↔
      (i.kind.showsValue = true → SingleLine i.value) := by
    cases i.kind.showsValue
    · simp only [Bool.false_eq_true, if_false, false_imp_iff, iff_true]
      decide
    · simp [opening, closing]
  have explained : SingleLine (if i.detail = "" then "" else ": " ++ i.detail) ↔
      SingleLine i.detail := by
    split
    · rename_i none
      rw [none]
    · simp [colon]
  simp only [text, singleLine_append, shown, explained, colon, i.kind.singleLine_label, and_true,
    and_assoc]

end Issue

/-- The lines of a report are the texts of its issues exactly when each of these is one line. -/
theorem lines_reportText_iff {issues : List Issue} (some : issues ≠ []) :
    Text.lines (reportText issues) = issues.map Issue.text ↔
      ∀ i ∈ issues, SingleLine i.text := by
  rw [reportText, Text.lines_intercalate_iff (by simpa using some), List.forall_mem_map]

end InstallCheck.Field
