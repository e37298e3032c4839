/-!
Finite maps from names, kept in ascending order of the names. Names are compared character by
character, which is also the order of their UTF-8 bytes, so two maps with the same bindings are
equal and a listing of one needs no sorting.
-/
namespace InstallCheck

/-- A finite map from names whose bindings are listed in strictly ascending order. -/
structure NameMap (α : Type) where
  entries : List (String × α)
  ascending : entries.Pairwise (fun a b => a.1 < b.1)
  deriving DecidableEq

namespace NameMap

variable {α : Type}

def empty : NameMap α := ⟨[], .nil⟩

instance : EmptyCollection (NameMap α) := ⟨empty⟩

instance : Inhabited (NameMap α) := ⟨empty⟩

/-- Puts a binding at its place in an ascending list, replacing the one that is there. -/
def insertSorted (name : String) (value : α) : List (String × α) → List (String × α)
  | [] => [(name, value)]
  | (n, v) :: rest =>
    if name < n then (name, value) :: (n, v) :: rest
    else if name = n then (name, value) :: rest
    else (n, v) :: insertSorted name value rest

theorem mem_insertSorted {name : String} {value : α} {b : String × α} :
    ∀ {es : List (String × α)}, b ∈ insertSorted name value es → b = (name, value) ∨ b ∈ es
  | [], h => by simpa [insertSorted] using h
  | (n, v) :: rest, h => by
    unfold insertSorted at h
    split at h
    · simpa using h
    · split at h
      · rcases List.mem_cons.1 h with h | h
        · exact .inl h
        · exact .inr (List.mem_cons_of_mem _ h)
      · rcases List.mem_cons.1 h with h | h
        · exact .inr (h ▸ List.mem_cons_self)
        · rcases mem_insertSorted h with h | h
          · exact .inl h
          · exact .inr (List.mem_cons_of_mem _ h)

theorem pairwise_insertSorted (name : String) (value : α) :
    ∀ {es : List (String × α)}, es.Pairwise (fun a b => a.1 < b.1) →
      (insertSorted name value es).Pairwise (fun a b => a.1 < b.1)
  | [], _ => by simp [insertSorted]
  | (n, v) :: rest, h => by
    have ⟨below, tail⟩ := List.pairwise_cons.1 h
    unfold insertSorted
    split
    · rename_i before
      refine List.pairwise_cons.2 ⟨fun b hb => ?_, h⟩
      rcases List.mem_cons.1 hb with rfl | hb
      · exact before
      · exact String.lt_trans before (below b hb)
    · split
      · rename_i same
        subst same
        exact List.pairwise_cons.2 ⟨below, tail⟩
      · rename_i notBefore different
        refine List.pairwise_cons.2 ⟨fun b hb => ?_, pairwise_insertSorted name value tail⟩
        rcases mem_insertSorted hb with rfl | hb
        · rcases Decidable.em (n < name) with after | notAfter
          · exact after
          · exact absurd (String.le_antisymm (String.not_lt.1 notAfter) (String.not_lt.1 notBefore))
              different
        · exact below b hb

/-- Binds a name, replacing what it was bound to. -/
def insert (m : NameMap α) (name : String) (value : α) : NameMap α :=
  ⟨insertSorted name value m.entries, pairwise_insertSorted name value m.ascending⟩

def get? (m : NameMap α) (name : String) : Option α := m.entries.lookup name

def contains (m : NameMap α) (name : String) : Bool := (m.get? name).isSome

/-- Binds every name of a list in turn, so that the last binding of a name stays. -/
def insertMany (m : NameMap α) (bindings : List (String × α)) : NameMap α :=
  bindings.foldl (fun m b => m.insert b.1 b.2) m

/-- The map of a list of bindings, of which the last one for a name counts. -/
def ofList (bindings : List (String × α)) : NameMap α := insertMany empty bindings

/-- Every binding of the second map added to the first, replacing the first map's. -/
def union (m other : NameMap α) : NameMap α := m.insertMany other.entries

/-- The bound names, ascending. -/
def names (m : NameMap α) : List String := m.entries.map (·.1)

def size (m : NameMap α) : Nat := m.entries.length

def isEmpty (m : NameMap α) : Bool := m.entries.isEmpty

end NameMap

end InstallCheck
