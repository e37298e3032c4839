import InstallCheck.Document.Basic

/-!
Values of a TOML document. Dates and times are kept as their text.
-/
namespace InstallCheck.Toml

inductive Value
  | text (value : String)
  | integer (value : Int)
  | float (value : Decimal.Binary64)
  | bool (value : Bool)
  | datetime (text : String)
  | array (items : List Value)
  | table (fields : List (String × Value))
  deriving Inhabited

/-- The one field name under which a date or time shows itself to a reader of records. -/
def datetimeField : String := "$__toml_private_datetime"

mutual

/-- A value as a reader of documents sees it. -/
def Value.toDocument : Value → Document
  | .text s => .text s
  | .integer n => .integer n
  | .float x => .float x
  | .bool b => .bool b
  | .datetime s => .record [(datetimeField, .text s)]
  | .array items => .openList (itemsToDocuments items)
  | .table fields => .record (fieldsToDocuments fields)

/-- The items of an array as a reader of documents sees them. -/
def itemsToDocuments : List Value → List Document
  | [] => []
  | v :: rest => v.toDocument :: itemsToDocuments rest

/-- The fields of a table as a reader of documents sees them. -/
def fieldsToDocuments : List (String × Value) → List (String × Document)
  | [] => []
  | (name, v) :: rest => (name, v.toDocument) :: fieldsToDocuments rest

end

end InstallCheck.Toml
