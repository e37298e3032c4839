import InstallCheck.Decimal.Reading
import InstallCheck.Settings.Basic
import InstallCheck.Toml.Value

/-!
Reading settings from a document in which a value may have another type than the setting: numbers and
truth values may be given as texts, and the other way round.
-/
namespace InstallCheck.Settings

open Document (Reader)

/-- The greatest number of seconds. -/
def mostSeconds : Nat := Nat.pow 2 64 - 1

/-- Words that stand for true. -/
def isYes (word : String) : Bool := ["true", "on", "yes"].contains word

/-- Words that stand for false. -/
def isNo (word : String) : Bool := ["false", "off", "no"].contains word

/-- A whole number from 0 to the greatest number of seconds. Other numbers are rounded, a half away
from zero, and the nearest one in the range taken. -/
def readSeconds : Reader Nat
  | .bool b => some (if b then 1 else 0)
  | .integer n => if n < 0 then none else some n.toNat
  | .float x => some (x.toNatWithin mostSeconds)
  | .text s =>
    if isYes s.toLower then some 1
    else if isNo s.toLower then some 0
    else (Decimal.natural? s).filter (· ≤ mostSeconds)
  | _ => none

/-- A truth value; a number is true if it is not zero. -/
def readSwitch : Reader Bool
  | .bool b => some b
  | .integer n => some (n ≠ 0)
  | .float x => some !x.isZero
  | .text s =>
    let word := s.toLower
    if word = "1" || isYes word then some true
    else if word = "0" || isNo word then some false
    else none
  | _ => none

/-- A text, or the text of a truth value or number. -/
def readWord : Reader String
  | .bool b => some (if b then "true" else "false")
  | .integer n => some (toString n)
  | .float x => some x.text
  | .text s => some s
  | _ => none

/-- The settings in a document. Its parts may be given as lists in order. -/
def read : Reader Settings := fun d => do
  let p ← Document.parts ["lookup", "regions", "output"] d
  let lookup ← p "lookup" >>= Document.parts ["timeout_secs"]
  let output ← p "output" >>= Document.parts ["no_color", "format"]
  return {
    timeoutSeconds := ← lookup.required "timeout_secs" readSeconds
    regions := ← p.orElse "regions" ∅ (Document.readNameMap readWord)
    noColor := ← output.required "no_color" readSwitch
    format := ← output.required "format" readWord }

mutual

/-- A value of a settings file as a document, in which a date is its text. Whole numbers have 64 bits
there. -/
def ofValue? : Toml.Value → Option Document
  | .text s => some (.text s)
  | .integer n => if -Int.pow 2 63 ≤ n ∧ n < Int.pow 2 63 then some (.integer n) else none
  | .float x => some (.float x)
  | .bool b => some (.bool b)
  | .datetime s => some (.text s)
  | .array items => (ofItems? items).map .openList
  | .table fields => (ofFields? fields).map .record

/-- The items of an array of a settings file. -/
def ofItems? : List Toml.Value → Option (List Document)
  | [] => some []
  | v :: rest => do return (← ofValue? v) :: (← ofItems? rest)

/-- The fields of a table of a settings file. -/
def ofFields? : List (String × Toml.Value) → Option (List (String × Document))
  | [] => some []
  | (name, v) :: rest => do return (name, ← ofValue? v) :: (← ofFields? rest)

end

end InstallCheck.Settings
