import InstallCheck.Json.Parser
import InstallCheck.Json.Printer
import Mathlib.Data.List.DropRight
import Mathlib.Data.List.TakeDrop
import Mathlib.Tactic.SplitIfs

/-!
JSON text that is written is read back as the document that it was written for. Texts come back
character by character, lists item by item and records field by field.
-/
namespace InstallCheck.Json

section Blanks

variable {c : Char} {cs rest : List Char} {depth fuel : Nat}

theorem skipBlanks_of_blanks (blank : ∀ c ∈ cs, isBlank c = true) :
    skipBlanks (cs ++ rest) = skipBlanks rest :=
  List.dropWhile_append_of_pos blank

theorem skipBlanks_cons (solid : isBlank c = false) : skipBlanks (c :: rest) = c :: rest := by
  simp [skipBlanks, solid]

@[simp] theorem skipBlanks_skipBlanks : skipBlanks (skipBlanks cs) = skipBlanks cs :=
  List.dropWhile_idempotent isBlank cs

theorem isBlank_of_mem_newLine (member : c ∈ (newLine depth).toList) : isBlank c = true := by
  obtain rfl | ⟨-, rfl⟩ : c = '\n' ∨ ¬ 2 * depth = 0 ∧ c = ' ' := by
    simpa [newLine] using member
  all_goals rfl

@[simp] theorem skipBlanks_newLine : skipBlanks ((newLine depth).toList ++ rest) = skipBlanks rest :=
  skipBlanks_of_blanks fun _ => isBlank_of_mem_newLine

theorem skipBlanks_blank : skipBlanks (' ' :: rest) = skipBlanks rest := rfl

/-- Blanks before a value do not matter. -/
theorem value_skipBlanks : value fuel (skipBlanks cs) = value fuel cs := by
  cases fuel with
  | zero => rfl
  | succ fuel => simp only [value, skipBlanks_skipBlanks]

theorem items_skipBlanks : items fuel (skipBlanks cs) = items fuel cs := by
  cases fuel with
  | zero => rfl
  | succ fuel => simp only [items, value_skipBlanks]

theorem fields_skipBlanks : fields fuel (skipBlanks cs) = fields fuel cs := by
  cases fuel with
  | zero => rfl
  | succ fuel => simp only [fields, skipBlanks_skipBlanks]

theorem value_newLine : value fuel ((newLine depth).toList ++ rest) = value fuel rest := by
  rw [← value_skipBlanks, skipBlanks_newLine, value_skipBlanks]

theorem value_blank : value fuel (' ' :: rest) = value fuel rest := by
  rw [← value_skipBlanks, skipBlanks_blank, value_skipBlanks]

end Blanks

section Texts

/-- The element as which a character is written. -/
def written (c : Char) : Element :=
  if c.toNat < 32 ∧ c ∉ ['\n', '\r', '\t', '\x08', '\x0c'] then .unit c.toNat else .char c

theorem hexValue?_hexDigit (n : Nat) : hexValue? (hexDigit n) = some (n % 16) := by
  have all : ∀ d, d < 16 → hexValue? (Nat.digitChar d) = some d := by decide
  exact all (n % 16) (Nat.mod_lt n (by decide))

theorem elements_escape {c : Char} {rest after : List Char} {found : List Element}
    (read : elements rest = some (found, after)) :
    elements (escape c ++ rest) = some (written c :: found, after) := by
  unfold escape
  split_ifs with quote backslash newLine back tab backspace formFeed control
  -- First come the characters that a letter stands for.
  · subst quote; simp [elements, escaped?, written, read]
  · subst backslash; simp [elements, escaped?, written, read]
  · subst newLine; simp [elements, escaped?, written, read]
  · subst back; simp [elements, escaped?, written, read]
  · subst tab; simp [elements, escaped?, written, read]
  · subst backspace; simp [elements, escaped?, written, read]
  · subst formFeed; simp [elements, escaped?, written, read]
  · have unit : written c = .unit c.toNat := by
      simp [written, control, newLine, back, tab, backspace, formFeed]
    have whole : c.toNat / 16 % 16 * 16 + c.toNat % 16 = c.toNat := by omega
    have zero : hexValue? '0' = some 0 := by decide
    simp [elements, hexValue?_hexDigit, zero, read, unit, whole]
  · have plain : written c = .char c := by simp [written, control]
    rw [List.singleton_append, elements.eq_def]
    simp [backslash, read, plain, Nat.not_lt.mp control]

theorem elements_flatMap_escape (cs rest : List Char) :
    elements (cs.flatMap escape ++ '"' :: rest) = some (cs.map written, rest) := by
  induction cs with
  | nil => rfl
  | cons c cs ih =>
    rw [List.flatMap_cons, List.append_assoc]
    exact elements_escape ih

/-- A unit below the surrogates stands for a character of its own, whatever follows. -/
theorem characters?_unit {u : Nat} (low : u < 0xD800) (rest : List Element) :
    characters? (.unit u :: rest) = (characters? rest).map (Char.ofNat u :: ·) := by
  have notHigh : isHighSurrogate u = false := by
    simp only [isHighSurrogate, Bool.and_eq_false_imp, decide_eq_true_eq, decide_eq_false_iff_not]
    omega
  have notLow : isLowSurrogate u = false := by
    simp only [isLowSurrogate, Bool.and_eq_false_imp, decide_eq_true_eq, decide_eq_false_iff_not]
    omega
  cases rest with
  | nil => simp [characters?, notHigh, notLow]
  | cons e rest => cases e <;> simp [characters?, notHigh, notLow]

theorem characters?_map_written (cs : List Char) : characters? (cs.map written) = some cs := by
  induction cs with
  | nil => rfl
  | cons c cs ih =>
    rw [List.map_cons, written]
    split_ifs with control
    · have low : c.toNat < 0xD800 := by omega
      rw [characters?_unit low, ih, Char.ofNat_toNat]
      rfl
    · rw [characters?, ih]
      rfl

theorem toList_quote (s : String) :
    (quote s).toList = '"' :: (s.toList.flatMap escape ++ ['"']) := by
  simp [quote]

theorem quoted_flatMap_escape (s : String) (rest : List Char) :
    quoted (s.toList.flatMap escape ++ '"' :: rest) = some (some s, rest) := by
  rw [quoted, elements_flatMap_escape]
  simp [characters?_map_written]

/-- Texts are told apart by how they are quoted. -/
theorem quote_inj {s t : String} : quote s = quote t ↔ s = t := by
  constructor
  · intro same
    have same := congrArg String.toList same
    rw [toList_quote, toList_quote] at same
    have read := quoted_flatMap_escape s []
    rw [(List.cons.inj same).2, quoted_flatMap_escape t []] at read
    simpa using read.symm
  · exact congrArg quote

end Texts

/-- A document that can be written and read back: of words, texts, lists and records. -/
inductive Lasting : Document → Prop
  | null : Lasting .null
  | bool (b : Bool) : Lasting (.bool b)
  | text (s : String) : Lasting (.text s)
  | list {items : List Document} : (∀ d ∈ items, Lasting d) → Lasting (.list items)
  | record {fields : List (String × Document)} :
    (∀ f ∈ fields, Lasting f.2) → Lasting (.record fields)

/-- The text of a document is read back as the document, at any depth and whatever follows; the
length of the text bounds the number of steps. -/
def ReadBack (d : Document) : Prop :=
  ∀ depth fuel rest, (prettyAt depth d).length < fuel →
    value fuel ((prettyAt depth d).toList ++ rest) = some (d, rest)

section Values

variable {depth fuel : Nat} {rest : List Char}

theorem length_newLine : (newLine depth).length = 2 * depth + 1 := by
  have line : "\n".length = 1 := rfl
  simp [newLine, line, Nat.add_comm]

theorem items_prettyItems {ds : List Document} (nonempty : ds ≠ []) (each : ∀ d ∈ ds, ReadBack d)
    (enough : (prettyItems depth ds).length ≤ fuel) (rest : List Char) :
    items fuel ((prettyItems depth ds).toList ++ ((newLine depth).toList ++ ']' :: rest)) =
      some (ds, rest) := by
  -- By induction on the items: each takes one step, and it has more than one character.
  induction ds generalizing fuel with
  | nil => contradiction
  | cons d ds ih =>
    obtain ⟨first, others⟩ := List.forall_mem_cons.mp each
    cases ds with
    | nil =>
      simp only [prettyItems, String.length_append, length_newLine] at enough
      obtain ⟨fuel, rfl⟩ : ∃ f, fuel = f + 1 := ⟨fuel - 1, by omega⟩
      have read := first (depth + 1) fuel ((newLine depth).toList ++ ']' :: rest) (by omega)
      simp [items, prettyItems, value_newLine, read, skipBlanks_cons, isBlank]
    | cons e ds =>
      simp only [prettyItems, String.length_append, length_newLine] at enough
      obtain ⟨fuel, rfl⟩ : ∃ f, fuel = f + 1 := ⟨fuel - 1, by omega⟩
      -- What follows the first item is the text of the others, with the comma before it.
      have read := first (depth + 1) fuel (',' :: ((prettyItems depth (e :: ds)).toList ++
        ((newLine depth).toList ++ ']' :: rest))) (by omega)
      have less : (prettyItems depth (e :: ds)).length ≤ fuel := by omega
      have more := ih (List.cons_ne_nil e ds) others less
      simp [items, prettyItems, value_newLine, read, more, skipBlanks_cons, isBlank]

theorem fields_prettyFields {fs : List (String × Document)} (nonempty : fs ≠ [])
    (each : ∀ f ∈ fs, ReadBack f.2) (enough : (prettyFields depth fs).length ≤ fuel)
    (rest : List Char) :
    fields fuel ((prettyFields depth fs).toList ++ ((newLine depth).toList ++ '\x7d' :: rest)) =
      some (fs.map fun f => (some f.1, f.2), rest) := by
  induction fs generalizing fuel with
  | nil => contradiction
  | cons f fs ih =>
    obtain ⟨name, d⟩ := f
    obtain ⟨first, others⟩ : ReadBack d ∧ ∀ f ∈ fs, ReadBack f.2 := List.forall_mem_cons.mp each
    cases fs with
    | nil =>
      simp only [prettyFields, String.length_append, length_newLine] at enough
      obtain ⟨fuel, rfl⟩ : ∃ f, fuel = f + 1 := ⟨fuel - 1, by omega⟩
      have read := first (depth + 1) fuel ((newLine depth).toList ++ '\x7d' :: rest) (by omega)
      simp [fields, prettyFields, toList_quote, quoted_flatMap_escape, value_blank, read,
        skipBlanks_cons, isBlank]
    | cons e fs =>
      simp only [prettyFields, String.length_append, length_newLine] at enough
      obtain ⟨fuel, rfl⟩ : ∃ f, fuel = f + 1 := ⟨fuel - 1, by omega⟩
      have read := first (depth + 1) fuel (',' :: ((prettyFields depth (e :: fs)).toList ++
        ((newLine depth).toList ++ '\x7d' :: rest))) (by omega)
      have less : (prettyFields depth (e :: fs)).length ≤ fuel := by omega
      have more := ih (List.cons_ne_nil e fs) others less
      simp [fields, prettyFields, toList_quote, quoted_flatMap_escape, value_blank, read, more,
        skipBlanks_cons, isBlank]

/-- No value begins with a closing bracket, so that a list which is read has not ended yet. -/
theorem items_bracket : items fuel (']' :: rest) = none := by
  cases fuel with
  | zero => rfl
  | succ fuel =>
    cases fuel with
    | zero => rfl
    | succ fuel => simp [items, value, number, digits, skipBlanks_cons, isBlank]

theorem fields_brace : fields fuel ('\x7d' :: rest) = none := by
  cases fuel with
  | zero => rfl
  | succ fuel => simp [fields, skipBlanks_cons, isBlank]

theorem object_map (fs : List (String × Document)) :
    object (fs.map fun f => (some f.1, f.2)) = .record fs := by
  have named : (fs.map fun f => (some f.1, f.2)).mapM (fun f => f.1.map (·, f.2)) = some fs := by
    induction fs with
    | nil => rfl
    | cons f fs ih => simp [ih]
  rw [object, named]

theorem value_list {cs : List Char} {ds : List Document} (read : items fuel cs = some (ds, rest)) :
    value (fuel + 1) ('[' :: cs) = some (.list ds, rest) := by
  rw [← items_skipBlanks] at read
  have opening : skipBlanks ('[' :: cs) = '[' :: cs := skipBlanks_cons rfl
  simp only [value, opening]
  split
  · rename_i closed
    rw [closed, items_bracket] at read
    cases read
  · simp [read]

theorem value_record {cs : List Char} {fs : List (String × Document)}
    (read : fields fuel cs = some (fs.map fun f => (some f.1, f.2), rest)) :
    value (fuel + 1) ('\x7b' :: cs) = some (.record fs, rest) := by
  rw [← fields_skipBlanks] at read
  have opening : skipBlanks ('\x7b' :: cs) = '\x7b' :: cs := skipBlanks_cons rfl
  simp only [value, opening]
  split
  · rename_i closed
    rw [closed, fields_brace] at read
    cases read
  · simp [read, object_map]

end Values

theorem Lasting.readBack {d : Document} (lasting : Lasting d) : ReadBack d := by
  induction lasting with
  | null =>
    intro depth fuel rest enough
    obtain ⟨left, rfl⟩ := Nat.exists_eq_add_of_lt enough
    rw [prettyAt]
    rfl
  | bool b =>
    intro depth fuel rest enough
    obtain ⟨left, rfl⟩ := Nat.exists_eq_add_of_lt enough
    rw [prettyAt]
    cases b <;> rfl
  | text s =>
    intro depth fuel rest enough
    obtain ⟨left, rfl⟩ := Nat.exists_eq_add_of_lt enough
    simp [prettyAt, toList_quote, value, skipBlanks_cons, isBlank, quoted_flatMap_escape]
  | @list ds _ each =>
    intro depth fuel rest enough
    obtain ⟨left, rfl⟩ := Nat.exists_eq_add_of_lt enough
    cases ds with
    | nil =>
      rw [prettyAt]
      rfl
    | cons d ds =>
      have shorter : (prettyItems depth (d :: ds)).length ≤
          (prettyAt depth (.list (d :: ds))).length + left := by
        simp only [prettyAt, String.length_append]
        omega
      have read := items_prettyItems (List.cons_ne_nil d ds) each shorter rest
      simpa [prettyAt] using value_list read
  | @record fs _ each =>
    intro depth fuel rest enough
    obtain ⟨left, rfl⟩ := Nat.exists_eq_add_of_lt enough
    cases fs with
    | nil =>
      rw [prettyAt]
      rfl
    | cons f fs =>
      have shorter : (prettyFields depth (f :: fs)).length ≤
          (prettyAt depth (.record (f :: fs))).length + left := by
        simp only [prettyAt, String.length_append]
        omega
      have read := fields_prettyFields (List.cons_ne_nil f fs) each shorter rest
      simpa [prettyAt] using value_record read

theorem parse_pretty_line {d : Document} (lasting : Lasting d) :
    parse (pretty d ++ "\n") = some d := by
  have text : (pretty d ++ "\n").toList = (prettyAt 0 d).toList ++ ['\n'] := by simp [pretty]
  have enough : (prettyAt 0 d).length < ((prettyAt 0 d).toList ++ ['\n']).length + 1 := by
    rw [List.length_append, String.length_toList]
    omega
  have read := lasting.readBack 0 _ ['\n'] enough
  have blank : skipBlanks ['\n'] = [] := rfl
  simp only [parse, text, read, blank, List.isEmpty_nil, if_true]

end InstallCheck.Json
