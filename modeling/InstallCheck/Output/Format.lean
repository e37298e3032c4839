/-!
The forms in which results can be written.
-/
namespace InstallCheck.Output

inductive Format
  /-- Whatever suits where the output goes. -/
  | auto
  /-- Coloured, for people. -/
  | human
  /-- Without colours. -/
  | plain
  /-- One document, for programs. -/
  | json
  deriving DecidableEq, Repr

namespace Format

/-- The name by which a form is asked for. -/
def name : Format → String
  | auto => "auto"
  | human => "human"
  | plain => "plain"
  | json => "json"

/-- The label of a form. -/
def label : Format → String
  | auto => "Auto"
  | human => "Human"
  | plain => "Plain"
  | json => "Json"

/-- All forms. -/
def all : List Format := [auto, human, plain, json]

/-- The form with a name, which is written exactly so. -/
def ofName? (s : String) : Option Format := all.find? (·.name = s)

/-- The form with a name in any case. -/
def ofSetting? (s : String) : Option Format := ofName? s.toLower

end Format

end InstallCheck.Output
