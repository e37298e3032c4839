import InstallCheck.Json.Printer
import InstallCheck.Output.Format
import InstallCheck.Text.Style

/-!
Writing results. Each kind of message is written as one piece, or not at all if only the essential is
asked for.
-/
namespace InstallCheck.Output

/-- How results are written; the form is never the one that leaves the choice open. -/
structure Writer where
  format : Format
  quiet : Bool
  noColor : Bool
  deriving DecidableEq, Repr

namespace Writer

/-- The form that is used where one is asked for, by whether the output goes to a terminal. -/
def resolve (terminal : Bool) : Format → Format
  | .auto => if terminal then .human else .plain
  | format => format

/-- A writer by what the user and the settings ask for. What the user asks for goes first. -/
def ofRequest (asked : Option Format) (setting : String) (quiet noColor settingNoColor : Bool)
    (terminal : Bool := false) : Writer :=
  let format := resolve terminal ((asked.orElse fun _ => Format.ofSetting? setting).getD .auto)
  ⟨format, quiet, noColor || settingNoColor || format ≠ .human⟩

/-- Whether results are one document. -/
def isJson (w : Writer) : Bool := w.format = .json

/-- Whether results are coloured. -/
def hasColor (w : Writer) : Bool := !w.noColor

def line (w : Writer) (s : String) : List String := if w.quiet then [] else [s ++ "\n"]

/-- A message after a mark, in a colour. -/
def marked (w : Writer) (mark : String) (color : Text.Color) (message : String) : String :=
  if w.noColor then mark ++ " " ++ message
  else Text.bold (Text.colored color mark) ++ " " ++ Text.colored color message

def print (w : Writer) (message : String) : List String := w.line message

/-- A message that something went well. -/
def success (w : Writer) (message : String) : List String := w.line (w.marked "✓" .green message)

/-- A message that something is wrong, which is always essential. -/
def failure (w : Writer) (message : String) : List String := [w.marked "✗" .red message ++ "\n"]

def warning (w : Writer) (message : String) : List String := w.line (w.marked "⚠" .yellow message)

def info (w : Writer) (message : String) : List String := w.line (w.marked "ℹ" .blue message)

def header (w : Writer) (title : String) : List String :=
  w.line (if w.noColor then title else Text.bold (Text.colored .cyan title))

/-- A document, which is always essential. -/
def document (d : Document) : List String := [Json.pretty d ++ "\n"]

end Writer

end InstallCheck.Output
