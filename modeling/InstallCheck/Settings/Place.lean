import InstallCheck.Decimal.Reading
import InstallCheck.Document.Basic

/-!
Places in a document, and putting values there. A place is written as names with dots and positions in
brackets. A record that is put somewhere adds to what is there; anything else replaces it.
-/
namespace InstallCheck.Settings

/-- A step to a part of a document. A negative position counts from the end of a list. -/
inductive Step
  | key (name : String)
  | position (index : Int)
  deriving DecidableEq, Repr

/-- A place in a document, from its outermost record. -/
abbrev Place := List Step

namespace Place

/-- Whether a character may stand in a name. -/
def isNameChar (c : Char) : Bool := c.isAlphanum || c = '_' || c = '-'

/-- The name that a text begins with, and what follows. -/
def name? (cs : List Char) : Option (Step × List Char) :=
  let name := cs.takeWhile isNameChar
  if name.isEmpty then none else some (.key (String.ofList name), cs.drop name.length)

/-- The steps that make up a whole text after its first name. -/
def steps? : Nat → List Char → Option Place
  | _, [] => some []
  | 0, _ => none
  | fuel + 1, '.' :: rest => do
    let (step, rest) ← name? rest
    return step :: (← steps? fuel rest)
  | fuel + 1, '[' :: rest => do
    let inside := rest.takeWhile (· ≠ ']')
    let index ← Decimal.integer? (String.ofList inside)
    match inside, rest.drop inside.length with
    | '+' :: _, _ => none
    | _, ']' :: rest => return .position index :: (← steps? fuel rest)
    | _, _ => none
  | _ + 1, _ => none

/-- The place that a text stands for, if it is well formed. -/
def parse? (s : String) : Option Place := do
  let (first, rest) ← name? s.toList
  return first :: (← steps? (rest.length + 1) rest)

/-- The place that a text stands for; one that is not well formed is a single name. -/
def ofText (s : String) : Place := (parse? s).getD [.key s]

end Place

/-- The fields of a record; anything else has none. -/
def fieldsOf : Document → List (String × Document)
  | .record fields => fields
  | _ => []

/-- The items of a list; anything else has none. -/
def itemsOf : Document → List Document
  | .list items | .openList items => items
  | _ => []

/-- Fields with a value under a name, in place of the one that is there. -/
def putField (name : String) (d : Document) : List (String × Document) → List (String × Document)
  | [] => [(name, d)]
  | (other, e) :: rest =>
    if other = name then (name, d) :: rest else (other, e) :: putField name d rest

mutual

/-- What is at a place after a value has been put there. -/
def overlay (old : Document) : Document → Document
  | .record fields => .record (overlayFields (fieldsOf old) fields)
  | new => new

/-- The fields of a record after others have been put into it. -/
def overlayFields (old : List (String × Document)) :
    List (String × Document) → List (String × Document)
  | [] => old
  | (name, d) :: rest =>
    overlayFields (putField name (overlay ((old.lookup name).getD .null) d) old) rest

end

/-- The items of a list with a position in it: long enough for it, and where it is from the start. -/
def reach (items : List Document) (index : Int) : List Document × Nat :=
  if 0 ≤ index then
    (items ++ List.replicate (index.toNat + 1 - items.length) .null, index.toNat)
  else
    let back := (-index).toNat
    if back ≤ items.length then (items, items.length - back)
    else (List.replicate (back - items.length) .null ++ items, 0)

/-- A document in which a value has been put at a place; what leads there is made if need be. -/
def assign (value : Document) : Place → Document → Document
  | [], d => overlay d value
  | .key name :: rest, d =>
    let fields := fieldsOf d
    .record (putField name (assign value rest ((fields.lookup name).getD .null)) fields)
  | .position index :: rest, d =>
    let (items, found) := reach (itemsOf d) index
    .openList (items.modify found (assign value rest))

end InstallCheck.Settings
