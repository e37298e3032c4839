import InstallCheck.Field.Path
import Mathlib

/-!
Paths and their texts. Below one place children are told apart by their names, and so are the texts of
their paths. Paths whose names have neither a point nor an opening bracket are told apart by their whole
texts: such a text falls apart at these two characters, and nowhere else.
-/
namespace InstallCheck.Field.Path

variable {p q : Path} {a b : String}

theorem child_eq_child_iff : p.child a = q.child b ↔ p = q ∧ a = b := by
  cases p
  cases q
  simp [child, ← and_assoc, and_right_comm]

theorem text_child (p : Path) (name : String) : (p.child name).text = p.text ++ ("." ++ name) := by
  simp [text, child, segmentText, String.append_assoc]

theorem text_child_injective (p : Path) : Function.Injective fun name => (p.child name).text := by
  intro a b same
  simp only [text_child] at same
  simpa using same

/-- Whether a character begins a step in the text of a path. -/
def isMark (c : Char) : Bool := c = '.' ∨ c = '['

/-- A name in which no step seems to begin. -/
def PlainName (name : String) : Prop := '.' ∉ name.toList ∧ '[' ∉ name.toList

instance (name : String) : Decidable (PlainName name) := inferInstanceAs (Decidable (_ ∧ _))

/-- A path made of plain names and of any positions. -/
inductive Plain : Path → Prop
  | top {name : String} : PlainName name → Plain (top name)
  | child {p : Path} {name : String} : Plain p → PlainName name → Plain (p.child name)
  | index {p : Path} (position : Nat) : Plain p → Plain (p.index position)

/-- A step that has no name or a plain one. -/
def PlainStep : Segment → Prop
  | .key name => PlainName name
  | .index _ => True

theorem Plain.plainName (plain : p.Plain) : PlainName p.root := by
  induction plain with
  | top name => exact name
  | child _ _ ih => exact ih
  | index _ _ ih => exact ih

theorem Plain.plainSteps (plain : p.Plain) : ∀ step ∈ p.below, PlainStep step := by
  induction plain with
  | top _ => exact fun _ none => absurd none List.not_mem_nil
  | child _ name ih => exact List.forall_mem_append.mpr ⟨ih, List.forall_mem_singleton.mpr name⟩
  | index _ _ ih => exact List.forall_mem_append.mpr ⟨ih, List.forall_mem_singleton.mpr trivial⟩

def mark : Segment → Char
  | .key _ => '.'
  | .index _ => '['

/-- What is written of a step after its mark. -/
def inside : Segment → List Char
  | .key name => name.toList
  | .index position => position.repr.toList ++ [']']

def written (steps : List Segment) : List Char := steps.flatMap fun step => mark step :: inside step

variable {step other : Segment} {steps others : List Segment} {cs ds : List Char}

theorem written_cons : written (step :: steps) = mark step :: (inside step ++ written steps) := rfl

theorem isMark_mark : isMark (mark step) = true := by
  cases step <;> rfl

theorem toList_segmentText (step : Segment) : (segmentText step).toList = mark step :: inside step := by
  cases step <;> simp [segmentText, mark, inside, toString]

theorem toList_text (p : Path) : p.text.toList = p.root.toList ++ written p.below := by
  simp only [text, written, String.toList_append, String.toList_join, List.flatMap_map,
    toList_segmentText]

theorem isMark_of_plainName (plain : PlainName a) : ∀ c ∈ a.toList, isMark c = false := by
  intro c member
  simp only [isMark, decide_eq_false_iff_not, not_or]
  exact ⟨fun point => plain.1 (point ▸ member), fun bracket => plain.2 (bracket ▸ member)⟩

theorem isMark_of_isDigit {c : Char} (digit : c.isDigit = true) : isMark c = false := by
  simp only [isMark, decide_eq_false_iff_not, not_or]
  constructor
  · rintro rfl
    exact absurd digit (by decide)
  · rintro rfl
    exact absurd digit (by decide)

theorem isMark_of_plainStep (plain : PlainStep step) : ∀ c ∈ inside step, isMark c = false := by
  cases step with
  | key name => exact isMark_of_plainName plain
  | index position =>
    -- Of the two brackets only the one before the digits is a mark.
    rw [inside, List.forall_mem_append, List.forall_mem_singleton]
    refine ⟨fun c member => ?_, rfl⟩
    have digit : c ∈ Nat.toDigits 10 position := by simpa using member
    exact isMark_of_isDigit (Nat.isDigit_of_mem_toDigits (by decide) (by decide) digit)

theorem eq_of_mark_of_inside (sameMark : mark step = mark other)
    (sameInside : inside step = inside other) : step = other := by
  cases step with
  | key name =>
    cases other with
    | key otherName => exact congrArg _ (String.toList_inj.mp sameInside)
    | index _ => exact absurd sameMark (by simp [mark])
  | index position =>
    cases other with
    | key _ => exact absurd sameMark (by simp [mark])
    | index otherPosition =>
      have digits := List.append_cancel_right sameInside
      exact congrArg _ (Nat.repr_inj.mp (String.toList_inj.mp digits))

theorem takeWhile_append_written (free : ∀ c ∈ cs, isMark c = false) (steps : List Segment) :
    (cs ++ written steps).takeWhile (!isMark ·) = cs := by
  -- What stands before the steps ends at the first mark, which is that of the first step.
  rw [List.takeWhile_append_of_pos (by simpa using free)]
  cases steps with
  | nil => simp [written]
  | cons step steps => simp [written_cons, isMark_mark]

theorem append_written_inj (free : ∀ c ∈ cs, isMark c = false) (freeToo : ∀ c ∈ ds, isMark c = false)
    (same : cs ++ written steps = ds ++ written others) : cs = ds ∧ written steps = written others := by
  have start : cs = ds := by
    rw [← takeWhile_append_written free steps, same, takeWhile_append_written freeToo others]
  subst start
  exact ⟨rfl, List.append_cancel_left same⟩

theorem written_inj (plain : ∀ step ∈ steps, PlainStep step)
    (plainToo : ∀ step ∈ others, PlainStep step) (same : written steps = written others) :
    steps = others := by
  -- What is written of a step ends at the mark of the next one, so the first steps can be compared.
  induction steps generalizing others with
  | nil =>
    cases others with
    | nil => rfl
    | cons other others => simp [written] at same
  | cons step steps ih =>
    cases others with
    | nil => simp [written] at same
    | cons other others =>
      rw [List.forall_mem_cons] at plain plainToo
      obtain ⟨sameMark, rest⟩ := List.cons.inj same
      obtain ⟨sameInside, rest⟩ :=
        append_written_inj (isMark_of_plainStep plain.1) (isMark_of_plainStep plainToo.1) rest
      rw [eq_of_mark_of_inside sameMark sameInside, ih plain.2 plainToo.2 rest]

theorem Plain.text_inj (plain : p.Plain) (plainToo : q.Plain) : p.text = q.text ↔ p = q := by
  constructor
  · intro same
    rw [← String.toList_inj, toList_text, toList_text] at same
    obtain ⟨sameRoot, sameBelow⟩ := append_written_inj (isMark_of_plainName plain.plainName)
      (isMark_of_plainName plainToo.plainName) same
    have root : p.root = q.root := String.toList_inj.mp sameRoot
    have below : p.below = q.below := written_inj plain.plainSteps plainToo.plainSteps sameBelow
    cases p
    cases q
    congr
  · exact congrArg text

/-- A name with a point is written like two names. -/
example : (top "a.b").text = ((top "a").child "b").text ∧ top "a.b" ≠ (top "a").child "b" := by
  decide

end InstallCheck.Field.Path
