import InstallCheck.Json.Parser
import InstallCheck.Toml.Parser

/-!
The formats in which documents are written.
-/
namespace InstallCheck.Document

inductive Format
  | json
  | toml
  deriving DecidableEq, Repr

/-- The format that the extension of a file stands for. -/
def Format.ofExtension? : String → Option Format
  | "json" => some .json
  | "toml" => some .toml
  | _ => none

/-- The document that a text holds. -/
def ofText? (format : Format) (text : String) : Option Document :=
  match format with
  | .json => Json.parse text
  | .toml => (Toml.parse text).map (·.toDocument)

end InstallCheck.Document
