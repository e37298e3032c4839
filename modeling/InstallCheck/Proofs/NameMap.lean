import InstallCheck.NameMap

/-!
Finite maps by what they bind. A binding that is inserted counts from then on, of several bindings of a
name the last one does, and a union prefers the bindings of its second map. What a map binds determines
it, and so maps form a monoid under union.
-/
namespace InstallCheck.NameMap

variable {α : Type} {m : NameMap α} {name : String} {value : α}

theorem lookup_cons_eq {first : String} {entries : List (String × α)} :
    ((first, value) :: entries).lookup name =
      if name = first then some value else entries.lookup name := by
  by_cases same : name = first
  · simp [same]
  · rw [List.lookup_cons, beq_false_of_ne same, if_neg same]

theorem lookup_insertSorted {other : String} {entries : List (String × α)} :
    (insertSorted name value entries).lookup other =
      if other = name then some value else entries.lookup other := by
  induction entries with
  | nil => exact lookup_cons_eq
  | cons entry entries ih =>
    obtain ⟨first, v⟩ := entry
    unfold insertSorted
    split
    · exact lookup_cons_eq
    · split
      · rename_i same
        subst same
        simp only [lookup_cons_eq]
        split <;> rfl
      · rename_i different
        simp only [lookup_cons_eq, ih]
        -- A text is not both the name that is inserted and the one that stands here.
        by_cases found : other = first
        · subst found
          rw [if_pos rfl, if_neg (Ne.symm different), if_pos rfl]
        · rw [if_neg found, if_neg found]

theorem get?_insert {other : String} :
    (m.insert name value).get? other = if other = name then some value else m.get? other :=
  lookup_insertSorted

/-- Of the bindings of a name the last one counts, and those of the map before it. -/
theorem get?_insertMany {bindings : List (String × α)} :
    (m.insertMany bindings).get? name = (bindings.reverse.lookup name).or (m.get? name) := by
  induction bindings generalizing m with
  | nil => rfl
  | cons b bindings ih =>
    have rest : (m.insertMany (b :: bindings)).get? name =
        ((m.insert b.1 b.2).insertMany bindings).get? name := rfl
    rw [rest, ih, get?_insert, List.reverse_cons, List.lookup_append, Option.or_assoc,
      lookup_cons_eq]
    split <;> rfl

/-- A name that is bound at most once in a list is bound to what the list says anywhere. -/
theorem lookup_eq_some_iff {entries : List (String × α)}
    (distinct : entries.Pairwise (fun a b => a.1 ≠ b.1)) :
    entries.lookup name = some value ↔ (name, value) ∈ entries := by
  induction entries with
  | nil => simp
  | cons entry entries ih =>
    obtain ⟨first, v⟩ := entry
    obtain ⟨apart, distinct⟩ := List.pairwise_cons.mp distinct
    rw [lookup_cons_eq, List.mem_cons, Prod.mk.injEq]
    split
    · rename_i here
      subst here
      have notLater : (name, value) ∉ entries := fun later => apart _ later rfl
      simp [notLater, eq_comm]
    · rename_i elsewhere
      simp [elsewhere, ih distinct]

theorem distinct_entries (m : NameMap α) : m.entries.Pairwise (fun a b => a.1 ≠ b.1) :=
  m.ascending.imp fun {_ _} below => String.ne_of_lt below

theorem mem_entries_iff : (name, value) ∈ m.entries ↔ m.get? name = some value :=
  (lookup_eq_some_iff m.distinct_entries).symm

theorem mem_names_iff : name ∈ m.names ↔ ∃ value, m.get? name = some value := by
  simp [names, ← mem_entries_iff]

theorem contains_iff : m.contains name = true ↔ name ∈ m.names := by
  rw [mem_names_iff, contains, Option.isSome_iff_exists]

theorem get?_union {other : NameMap α} :
    (m.union other).get? name = (other.get? name).or (m.get? name) := by
  -- The second map binds a name once, so the last of its bindings is the only one.
  have onlyOne : other.entries.reverse.lookup name = other.get? name := by
    apply Option.ext
    intro value
    have distinct : other.entries.reverse.Pairwise (fun a b => a.1 ≠ b.1) :=
      List.pairwise_reverse.mpr (other.distinct_entries.imp Ne.symm)
    rw [lookup_eq_some_iff distinct, List.mem_reverse, mem_entries_iff]
  rw [union, get?_insertMany, onlyOne]

theorem pairwise_names (m : NameMap α) : m.names.Pairwise (· < ·) :=
  List.pairwise_map.mpr m.ascending

theorem nodup_names (m : NameMap α) : m.names.Nodup := m.pairwise_names.imp String.ne_of_lt

theorem get?_ofList {bindings : List (String × α)} :
    (ofList bindings).get? name = bindings.reverse.lookup name := by
  rw [ofList, get?_insertMany]
  exact Option.or_none

theorem mem_names_ofList_iff {bindings : List (String × α)} :
    name ∈ (ofList bindings).names ↔ name ∈ bindings.map (·.1) := by
  simp [mem_names_iff, ← Option.isSome_iff_exists, get?_ofList]

/-- Of the bindings of a name in a list the map holds the one behind which there is no other. -/
theorem get?_ofList_eq_some_iff {bindings : List (String × α)} :
    (ofList bindings).get? name = some value ↔
      ∃ before after, bindings = before ++ (name, value) :: after ∧ name ∉ after.map (·.1) := by
  rw [get?_ofList, List.lookup_eq_some_iff]
  constructor
  · rintro ⟨after, before, turned, others⟩
    refine ⟨before.reverse, after.reverse, ?_, ?_⟩
    · rw [← List.reverse_inj, turned]
      simp
    · intro later
      obtain ⟨b, member, same⟩ := List.mem_map.mp later
      have other := others b (List.mem_reverse.mp member)
      simp [same] at other
  · rintro ⟨before, after, rfl, others⟩
    refine ⟨after.reverse, before.reverse, by simp, fun b member => ?_⟩
    have other : b.1 ≠ name := fun same =>
      others (same ▸ List.mem_map_of_mem (List.mem_reverse.mp member))
    simp [other.symm]

theorem nodup_entries (m : NameMap α) : m.entries.Nodup := by
  apply m.distinct_entries.imp
  intro a b apart same
  exact apart (congrArg Prod.fst same)

/-- Maps that bind every name alike are equal, as the order of their bindings leaves no choice. -/
theorem ext_get? {other : NameMap α} (alike : ∀ name, m.get? name = other.get? name) : m = other := by
  have members (entry : String × α) : entry ∈ m.entries ↔ entry ∈ other.entries := by
    rw [mem_entries_iff, mem_entries_iff, alike]
  have rearranged : m.entries.Perm other.entries :=
    (List.perm_ext_iff_of_nodup m.nodup_entries other.nodup_entries).mpr members
  have same : m.entries = other.entries := by
    apply rearranged.eq_of_pairwise _ m.ascending other.ascending
    intro a b _ _ before after
    exact absurd after (String.lt_asymm before)
  cases m
  cases other
  simpa using same

theorem union_empty (m : NameMap α) : m.union ∅ = m := rfl

theorem empty_union (m : NameMap α) : (∅ : NameMap α).union m = m := by
  apply ext_get?
  intro name
  rw [get?_union]
  exact Option.or_none

theorem union_assoc (a b c : NameMap α) : (a.union b).union c = a.union (b.union c) := by
  apply ext_get?
  intro name
  simp only [get?_union, Option.or_assoc]

end InstallCheck.NameMap
