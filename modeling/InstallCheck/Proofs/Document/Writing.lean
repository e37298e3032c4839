import InstallCheck.Document.Basic
import InstallCheck.Proofs.NameMap

/-!
Values that come back from the documents written for them. A record is written as the entries that have a
value; what is left out is what its reader takes for a field that is missing.
-/
namespace InstallCheck.Document

variable {α : Type} {kept : String → Prop} {write : α → Document} {read : Reader α} {name : String}

/-- A document from which nothing more could be left out: it has no null, and no field with an empty list
other than those that are kept. -/
inductive Terse (kept : String → Prop) : Document → Prop
  | text (s : String) : Terse kept (.text s)
  | integer (n : Int) : Terse kept (.integer n)
  | list {items : List Document} : items ≠ [] → (∀ d ∈ items, Terse kept d) → Terse kept (.list items)
  | record {fields : List (String × Document)} :
    (∀ f ∈ fields, ¬ (kept f.1 ∧ f.2 = .list []) → Terse kept f.2) → Terse kept (.record fields)

/-- Every value is read back from its document. -/
def Restores (write : α → Document) (read : Reader α) : Prop := ∀ a, read (write a) = some a

/-- Every value is read back from its document, from which nothing more could be left out. -/
structure Survives (kept : String → Prop) (write : α → Document) (read : Reader α) : Prop where
  restored : Restores write read
  terse : ∀ a, Terse kept (write a)

section Values

theorem restores_text : Restores .text readText := fun _ => rfl

theorem survives_text (kept : String → Prop) : Survives kept .text readText := ⟨restores_text, .text⟩

theorem survives_count (kept : String → Prop) :
    Survives kept (fun n : UInt32 => .integer n.toNat) readUInt32 where
  restored n := by
    have inRange : (0 : Int) ≤ n.toNat ∧ (n.toNat : Int) < Int.pow 2 32 :=
      ⟨Int.natCast_nonneg _, Int.ofNat_lt.mpr n.toNat_lt⟩
    change readUInt32 (.integer n.toNat) = some n
    rw [readUInt32, if_pos inRange, Int.toNat_natCast, UInt32.ofNat_toNat]
  terse n := .integer n.toNat

theorem mapM_map_eq_some {β : Type} {f : α → β} {g : β → Option α} (inverse : ∀ a, g (f a) = some a)
    (as : List α) : (as.map f).mapM g = some as := by
  induction as with
  | nil => rfl
  | cons a as ih =>
    rw [List.map_cons, List.mapM_cons, inverse a, ih]
    rfl

theorem Restores.list (restored : Restores write read) :
    Restores (fun as => .list (as.map write)) (readList read) :=
  mapM_map_eq_some restored

theorem restores_texts : Restores texts (readList readText) := restores_text.list

/-- A map is listed in the order in which it is read, so that no binding takes the place of another. -/
theorem Restores.nameMap (restored : Restores write read) :
    Restores (ofNameMap write) (readNameMap read) := by
  intro m
  have bindings : (m.entries.map fun e => (e.1, write e.2)).mapM
      (fun f => (read f.2).map fun v => (f.1, v)) = some m.entries :=
    mapM_map_eq_some (fun e => by rw [restored e.2]; rfl) m.entries
  rw [ofNameMap, readNameMap, bindings]
  exact congrArg some m.empty_union

end Values

section Entries

/-- The fields of the entries that have a value. -/
def fieldsOf (entries : List (String × Option Document)) : List (String × Document) :=
  entries.filterMap fun e => e.2.map (e.1, ·)

/-- The value of an entry for a list of texts, which is left out when it is empty. -/
def texts? (items : List String) : Option Document := if items.isEmpty then none else some (texts items)

variable {entries : List (String × Option Document)} {names : List String}

@[simp] theorem fieldsOf_nil : fieldsOf [] = [] := rfl

@[simp] theorem fieldsOf_some {d : Document} :
    fieldsOf ((name, some d) :: entries) = (name, d) :: fieldsOf entries := rfl

@[simp] theorem fieldsOf_map {a : Option α} :
    fieldsOf ((name, a.map write) :: entries) = optionalField name write a ++ fieldsOf entries := by
  cases a <;> rfl

@[simp] theorem fieldsOf_texts? {items : List String} :
    fieldsOf ((name, texts? items) :: entries) = textsField name items ++ fieldsOf entries := by
  cases items <;> rfl

theorem fieldsOf_none : fieldsOf ((name, none) :: entries) = fieldsOf entries := rfl

/-- A name that is left out is not found, and one that has a value is found with it. -/
theorem lookup_fieldsOf (distinct : (entries.map (·.1)).Nodup) :
    (fieldsOf entries).lookup name = (entries.lookup name).join := by
  induction entries with
  | nil => rfl
  | cons e entries ih =>
    obtain ⟨first, d⟩ := e
    obtain ⟨apart, others⟩ := List.nodup_cons.mp distinct
    rw [NameMap.lookup_cons_eq]
    cases d with
    | some d =>
      rw [fieldsOf_some, NameMap.lookup_cons_eq, ih others]
      split <;> rfl
    | none =>
      rw [fieldsOf_none, ih others]
      split
      · rename_i here
        -- The name is left out here, and it does not occur again.
        have missing : entries.lookup name = none := by
          rw [List.lookup_eq_none_iff]
          intro e member
          rw [bne_iff_ne]
          rintro rfl
          subst here
          exact apart (List.mem_map.mpr ⟨e, member, rfl⟩)
        rw [missing]
        rfl
      · rfl

theorem names_fieldsOf (entries : List (String × Option Document)) :
    ((fieldsOf entries).map (·.1)).Sublist (entries.map (·.1)) := by
  induction entries with
  | nil => exact .slnil
  | cons e entries ih =>
    obtain ⟨first, _ | d⟩ := e
    · exact ih.cons first
    · exact ih.cons_cons first

/-- A record that is written is read as its entries. -/
theorem parts_fieldsOf (named : entries.map (·.1) = names) (distinct : names.Nodup) :
    parts names (.record (fieldsOf entries)) = some fun name => (entries.lookup name).join := by
  -- A name that occurs once among the entries occurs at most once among the fields.
  have once : (((fieldsOf entries).map (·.1)).filter names.contains).Nodup :=
    (named ▸ distinct).sublist (List.filter_sublist.trans (names_fieldsOf entries))
  rw [parts, if_pos once]
  congr 1
  funext name
  exact lookup_fieldsOf (named ▸ distinct)

/-- An entry that is left out, or could not be. -/
def Holds (kept : String → Prop) (e : String × Option Document) : Prop :=
  ∀ d, e.2 = some d → ¬ (kept e.1 ∧ d = .list []) → Terse kept d

theorem holds_some {d : Document} (terse : Terse kept d) : Holds kept (name, some d) := by
  rintro _ ⟨⟩ _
  exact terse

theorem holds_map {a : Option α} (terse : ∀ a, Terse kept (write a)) : Holds kept (name, a.map write) := by
  intro d there _
  obtain ⟨a, -, rfl⟩ := Option.map_eq_some_iff.mp there
  exact terse a

theorem terse_map {as : List α} (nonempty : as ≠ []) (terse : ∀ a, Terse kept (write a)) :
    Terse kept (.list (as.map write)) := by
  apply Terse.list (mt List.map_eq_nil_iff.mp nonempty)
  intro d member
  obtain ⟨a, -, rfl⟩ := List.mem_map.mp member
  exact terse a

theorem holds_texts? {items : List String} : Holds kept (name, texts? items) := by
  intro d there _
  rw [texts?, Option.ite_none_left_eq_some] at there
  obtain ⟨nonempty, ⟨⟩⟩ := there
  exact terse_map (by simpa using nonempty) .text

theorem holds_rows {rows : List α} (keeps : kept name) (terse : ∀ a, Terse kept (write a)) :
    Holds kept (name, some (.list (rows.map write))) := by
  rintro _ ⟨⟩ unkept
  -- Under a name that is not kept the list has a row.
  apply terse_map _ terse
  rintro rfl
  exact unkept ⟨keeps, rfl⟩

/-- A map is terse when empty lists may stand under any name. -/
theorem terse_ofNameMap (always : ∀ name, kept name)
    (terse : ∀ a, write a ≠ .list [] → Terse kept (write a)) (m : NameMap α) :
    Terse kept (ofNameMap write m) := by
  apply Terse.record
  intro f member unkept
  obtain ⟨e, -, rfl⟩ := List.mem_map.mp member
  exact terse e.2 fun none => unkept ⟨always e.1, none⟩

theorem terse_fieldsOf (holds : ∀ e ∈ entries, Holds kept e) : Terse kept (.record (fieldsOf entries)) := by
  apply Terse.record
  intro f member
  obtain ⟨e, listed, there⟩ := List.mem_filterMap.mp member
  obtain ⟨d, value, rfl⟩ := Option.map_eq_some_iff.mp there
  exact holds e listed d value

/-- A record survives when its entries hold what they should and are read again. -/
theorem Survives.ofEntries {body : Parts → Option α} (entries : α → List (String × Option Document))
    (reads : ∀ d, read d = parts names d >>= body) (distinct : names.Nodup)
    (named : ∀ a, (entries a).map (·.1) = names)
    (written : ∀ a, write a = .record (fieldsOf (entries a)))
    (holds : ∀ a, ∀ e ∈ entries a, Holds kept e)
    (restored : ∀ a, body (fun name => ((entries a).lookup name).join) = some a) :
    Survives kept write read where
  restored a := by
    rw [reads, written, parts_fieldsOf (named a) distinct]
    exact restored a
  terse a := by
    rw [written]
    exact terse_fieldsOf (holds a)

/-- The entries of a record of texts, none of which is left out. -/
def textEntries (fields : List (String × String)) : List (String × Option Document) :=
  fields.map fun f => (f.1, some (.text f.2))

theorem fieldsOf_textEntries (fields : List (String × String)) :
    fieldsOf (textEntries fields) = fields.map fun f => (f.1, .text f.2) := by
  rw [fieldsOf, textEntries, List.filterMap_map]
  exact congrFun List.filterMap_eq_map _

theorem lookup_textEntries (fields : List (String × String)) (name : String) :
    ((textEntries fields).lookup name).join = (fields.lookup name).map .text := by
  induction fields with
  | nil => rfl
  | cons f fields ih =>
    have first : textEntries (f :: fields) = (f.1, some (.text f.2)) :: textEntries fields := rfl
    rw [first, NameMap.lookup_cons_eq, NameMap.lookup_cons_eq]
    split
    · rfl
    · exact ih

/-- A record of texts survives when all of them have to be there. -/
theorem Survives.ofTexts {body : Parts → Option α} (fields : α → List (String × String))
    (reads : ∀ d, read d = parts names d >>= body) (distinct : names.Nodup)
    (named : ∀ a, (fields a).map (·.1) = names)
    (written : ∀ a, write a = .record ((fields a).map fun f => (f.1, .text f.2)))
    (restored : ∀ a, body (fun name => ((fields a).lookup name).map .text) = some a) :
    Survives kept write read := by
  apply Survives.ofEntries (fun a => textEntries (fields a)) reads distinct
  · intro a
    rw [textEntries, List.map_map]
    exact named a
  · intro a
    rw [written, fieldsOf_textEntries]
  · intro a e member
    obtain ⟨f, -, rfl⟩ := List.mem_map.mp member
    exact holds_some (.text f.2)
  · intro a
    simpa only [lookup_textEntries] using restored a

end Entries

section Names

/-- The names of the fields of a record. -/
def fieldNames : Document → List String
  | .record fields => fields.map (·.1)
  | _ => []

/-- The names that are marked, in the order of the list. -/
def marked (names : List (String × Bool)) : List String := (names.filter (·.2)).map (·.1)

@[simp] theorem marked_nil : marked [] = [] := rfl

@[simp] theorem marked_cons {mark : Bool} {names : List (String × Bool)} :
    marked ((name, mark) :: names) = (if mark then [name] else []) ++ marked names := by
  cases mark <;> rfl

@[simp] theorem names_optionalField {a : Option α} :
    (optionalField name write a).map (·.1) = if a.isSome then [name] else [] := by
  cases a <;> rfl

@[simp] theorem names_textsField {items : List String} :
    (textsField name items).map (·.1) = if !items.isEmpty then [name] else [] := by
  cases items <;> rfl

end Names

section Reading

variable {p : Parts}

theorem Parts.required_eq {a : α} (there : p name = some (write a)) (restored : Restores write read) :
    p.required name read = some a := by
  rw [required, there]
  exact restored a

theorem Parts.orElse_eq {a default : α} (there : p name = some (write a)) (restored : Restores write read) :
    p.orElse name default read = some a := by
  rw [orElse, there]
  exact restored a

/-- What is written is not null, and so it is told apart from what is left out. -/
theorem Parts.optional_eq {a : Option α} (there : p name = a.map write)
    (survives : Survives kept write read) : p.optional name read = some a := by
  rw [optional, orElse, there]
  cases a with
  | none => rfl
  | some a =>
    have solid : write a ≠ .null := fun null => nomatch null ▸ survives.terse a
    simp [readOptional, survives.restored a]

theorem Parts.texts_eq {items : List String} (there : p name = texts? items) :
    p.orElse name [] (readList readText) = some items := by
  cases items with
  | nil => rw [orElse, there]; rfl
  | cons s items => exact orElse_eq there restores_texts

end Reading

end InstallCheck.Document
