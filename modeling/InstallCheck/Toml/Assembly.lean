import InstallCheck.Toml.Value

/-!
Putting the tables of a document together. Values arrive one by one under names with dots, and tables
are opened by headers; a table may be written in several places only as far as the format allows.
-/
namespace InstallCheck.Toml

/-- How a table came to be. -/
inductive Origin
  /-- By a header of a table inside it. -/
  | implied
  /-- By a header of its own. -/
  | header
  /-- By a name with dots. -/
  | dotted
  deriving DecidableEq

/-- What a name stands for in a table that is being put together. -/
inductive Item
  | value (v : Value)
  | table (origin : Origin) (fields : List (String × Item))
  /-- Tables of one name, of which the last one is being put together. -/
  | series (done : List (List (String × Item))) (last : List (String × Item))
  deriving Inhabited

/-- The fields of a table that is being put together. -/
abbrev Fields := List (String × Item)

namespace Fields

/-- Fields in which the item of a name has been replaced. -/
def replace (name : String) (new : Item) : Fields → Fields
  | [] => []
  | (other, item) :: rest =>
    if other = name then (other, new) :: rest else (other, item) :: replace name new rest

/-- Fields with a value under a name, after the names of the tables it lies in. Tables that are missing
are made. A value under a name with dots belongs into a table made by such a name, and a value under a
plain name into any other. -/
def insert (nested : Bool) (value : Value) : Bool → List String → String → Fields → Option Fields
  | inDotted, [], name, fields =>
    if inDotted = nested ∧ (fields.lookup name).isNone then some (fields ++ [(name, .value value)])
    else none
  | _, outer :: inner, name, fields =>
    match fields.lookup outer with
    | none => do
      let below ← insert nested value true inner name []
      return fields ++ [(outer, .table .dotted below)]
    | some (.value _) | some (.table .header _) => none
    | some (.table origin below) => do
      let below ← insert nested value (origin = .dotted) inner name below
      return replace outer (.table origin below) fields
    | some (.series done last) => do
      let last ← insert nested value false inner name last
      return replace outer (.series done last) fields

/-- Fields changed in the table at the end of a list of names. Tables that are missing are made. -/
def update (change : Fields → Option Fields) : List String → Fields → Option Fields
  | [], fields => change fields
  | outer :: inner, fields =>
    match fields.lookup outer with
    | none => do
      let below ← update change inner []
      return fields ++ [(outer, .table .implied below)]
    | some (.value _) => none
    | some (.table origin below) => do
      let below ← update change inner below
      return replace outer (.table origin below) fields
    | some (.series done last) => do
      let last ← update change inner last
      return replace outer (.series done last) fields

/-- Fields after the header of a table with a name. -/
def openTable (name : String) (fields : Fields) : Option Fields :=
  match fields.lookup name with
  | none => some (fields ++ [(name, .table .header [])])
  | some (.table .implied below) => some (replace name (.table .header below) fields)
  | some _ => none

/-- Fields after the header of a further table of a name. -/
def openSeries (name : String) (fields : Fields) : Option Fields :=
  match fields.lookup name with
  | none => some (fields ++ [(name, .series [] [])])
  | some (.series done last) => some (replace name (.series (done ++ [last]) []) fields)
  | some _ => none

end Fields

mutual

/-- The value that an item has become. -/
def Item.toValue : Item → Value
  | .value v => v
  | .table _ fields => .table (fieldValues fields)
  | .series done last => .array (seriesValues done ++ [.table (fieldValues last)])

/-- The values that fields have become. -/
def fieldValues : List (String × Item) → List (String × Value)
  | [] => []
  | (name, item) :: rest => (name, item.toValue) :: fieldValues rest

/-- The values that tables have become. -/
def seriesValues : List (List (String × Item)) → List Value
  | [] => []
  | fields :: rest => .table (fieldValues fields) :: seriesValues rest

end

end InstallCheck.Toml
