import InstallCheck.Decimal.Shortest
import InstallCheck.NameMap

/-!
Documents: the values that a JSON or TOML text holds, as far as reading a configuration from them
goes. Fields of a record keep the order, and the repetitions, in which they were written.
-/
namespace InstallCheck

inductive Document
  | null
  | bool (value : Bool)
  | integer (value : Int)
  | float (value : Decimal.Binary64)
  | text (value : String)
  /-- A part that is well formed but has no value, such as a text with half of a surrogate pair; it
  can be skipped but not read. -/
  | unreadable
  | list (items : List Document)
  /-- A list from which a record may be read without reading all of its items. -/
  | openList (items : List Document)
  | record (fields : List (String × Document))
  deriving Inhabited

namespace Document

abbrev Reader (α : Type) := Document → Option α

def readText : Reader String
  | .text s => some s
  | _ => none

def readUInt32 : Reader UInt32
  | .integer n => if 0 ≤ n ∧ n < Int.pow 2 32 then some (UInt32.ofNat n.toNat) else none
  | _ => none

def readList {α : Type} (item : Reader α) : Reader (List α)
  | .list items | .openList items => items.mapM item
  | _ => none

def readOptional {α : Type} (value : Reader α) : Reader (Option α)
  | .null => some none
  | d => (value d).map some

/-- A map from names to values of one kind; the last field of a name counts. -/
def readNameMap {α : Type} (value : Reader α) : Reader (NameMap α)
  | .record fields =>
    (fields.mapM fun f => (value f.2).map fun v => (f.1, v)).map NameMap.ofList
  | _ => none

/-- The fields of a structured document, by name. -/
abbrev Parts := String → Option Document

/-- The fields of a document with the given field names: a record in which none of them occurs
twice, whatever other fields it has, or a list of the first of them in order, which has more items
only if it is open. -/
def parts (names : List String) : Document → Option Parts
  | .record fields =>
    if ((fields.map (·.1)).filter names.contains).Nodup then some (fields.lookup ·) else none
  | .list items =>
    if items.length ≤ names.length then some ((names.zip items).lookup ·) else none
  | .openList items => some ((names.zip items).lookup ·)
  | _ => none

/-- The value of a field that has to be there. -/
def Parts.required {α : Type} (p : Parts) (name : String) (value : Reader α) : Option α :=
  p name >>= value

/-- The value of a field, or a default where it is missing. -/
def Parts.orElse {α : Type} (p : Parts) (name : String) (default : α) (value : Reader α) :
    Option α :=
  match p name with
  | none => some default
  | some d => value d

/-- The value of a field that may be missing or null. -/
def Parts.optional {α : Type} (p : Parts) (name : String) (value : Reader α) :
    Option (Option α) :=
  p.orElse name none (readOptional value)

/-- A field that is left out when there is no value for it. -/
def optionalField {α : Type} (name : String) (write : α → Document) :
    Option α → List (String × Document)
  | none => []
  | some a => [(name, write a)]

def texts (items : List String) : Document := .list (items.map .text)

/-- A list of texts that is left out when it is empty. -/
def textsField (name : String) (items : List String) : List (String × Document) :=
  if items.isEmpty then [] else [(name, texts items)]

/-- A record with one field for each binding. -/
def ofNameMap {α : Type} (write : α → Document) (m : NameMap α) : Document :=
  .record (m.entries.map fun e => (e.1, write e.2))

end Document

end InstallCheck
