import InstallCheck.Document.Basic
import InstallCheck.Field.Issue

/-!
Issues as documents, for reports that are read by programs.
-/
namespace InstallCheck.Field

def Issue.toDocument (i : Issue) : Document :=
  .record [("path", .text i.path.text), ("kind", .text i.kind.name), ("value", .text i.value),
    ("detail", .text i.detail)]

def reportDocument (issues : List Issue) : Document :=
  .record [("errors", .list (issues.map Issue.toDocument))]

end InstallCheck.Field
