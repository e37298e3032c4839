/-!
Where in an install config a value stands: a top-level field, then named children and list
positions. The text of a path is what reports show.
-/
namespace InstallCheck.Field

/-- One step below a section. -/
inductive Segment
  | key (name : String)
  | index (position : Nat)
  deriving DecidableEq, Repr

/-- The place of a value: a top-level field and the steps below it. -/
structure Path where
  root : String
  below : List Segment
  deriving DecidableEq, Repr

namespace Path

/-- A top-level field. -/
def top (root : String) : Path := ⟨root, []⟩

def child (p : Path) (name : String) : Path := ⟨p.root, p.below ++ [.key name]⟩

def index (p : Path) (position : Nat) : Path := ⟨p.root, p.below ++ [.index position]⟩

/-- How a step is written after what stands before it. -/
def segmentText : Segment → String
  | .key name => "." ++ name
  | .index position => s!"[{position}]"

/-- The text of a path, such as `compute[1].platform.ibmcloud.type`. -/
def text (p : Path) : String := p.root ++ String.join (p.below.map segmentText)

end Path

end InstallCheck.Field
