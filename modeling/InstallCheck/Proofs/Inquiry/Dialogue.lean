import InstallCheck.Check.Inquiry

/-!
What comes of an inquiry depends on the answers alone. A dialogue is a list of lookups and answers
that takes an inquiry to a result; every run of an inquiry follows one, and when no lookup is cut
short the answers in it are those of the cloud.
-/
namespace InstallCheck.Check

open Cloud (Query Reply)

/-- A lookup and what came of it. -/
structure Exchange where
  query : Query
  result : query.Result

namespace Inquiry

variable {α β : Type}

/-- An inquiry that is answered as listed asks exactly what is listed, and ends with a value. -/
inductive Dialogue : Inquiry α → List Exchange → α → Prop
  | done (a : α) : Dialogue (.done a) [] a
  | ask {q : Query} {next : q.Result → Inquiry α} {r : q.Result} {t : List Exchange} {a : α} :
    Dialogue (next r) t a → Dialogue (.ask q next) (⟨q, r⟩ :: t) a
  | note {e : Logging.Event} {rest : Inquiry α} {t : List Exchange} {a : α} :
    Dialogue rest t a → Dialogue (.note e rest) t a

@[simp] theorem dialogue_pure {a b : α} {t : List Exchange} :
    Dialogue (pure a) t b ↔ t = [] ∧ b = a := by
  constructor
  · rintro ⟨⟩
    exact ⟨rfl, rfl⟩
  · rintro ⟨rfl, rfl⟩
    exact .done b

theorem dialogue_bind {i : Inquiry α} {f : α → Inquiry β} {t : List Exchange} {b : β} :
    Dialogue (i >>= f) t b ↔
      ∃ first rest a, t = first ++ rest ∧ Dialogue i first a ∧ Dialogue (f a) rest b := by
  change Dialogue (i.bind f) t b ↔ _
  constructor
  · intro h
    -- The inquiry says where its own lookups end, so the induction is on it and not on the dialogue.
    induction i generalizing t with
    | done a => exact ⟨[], t, a, rfl, .done a, h⟩
    | ask q next ih =>
      cases h with
      | ask h =>
        obtain ⟨first, rest, a, rfl, asked, goesOn⟩ := ih _ h
        exact ⟨_ :: first, rest, a, rfl, .ask asked, goesOn⟩
    | note e rest ih =>
      cases h with
      | note h =>
        obtain ⟨first, rest, a, rfl, asked, goesOn⟩ := ih h
        exact ⟨first, rest, a, rfl, .note asked, goesOn⟩
  · rintro ⟨first, rest, a, rfl, asked, goesOn⟩
    induction asked with
    | done a => exact goesOn
    | ask _ ih => exact .ask (ih goesOn)
    | note _ ih => exact .note (ih goesOn)

@[simp] theorem dialogue_query {q : Query} {t : List Exchange} {r : q.Result} :
    Dialogue (query q) t r ↔ t = [⟨q, r⟩] := by
  constructor
  · intro h
    cases h with
    | ask h => cases h; rfl
  · rintro rfl
    exact .ask (.done r)

@[simp] theorem dialogue_query_bind {q : Query} {f : q.Result → Inquiry β} {t : List Exchange}
    {b : β} : Dialogue (query q >>= f) t b ↔ ∃ r rest, t = ⟨q, r⟩ :: rest ∧ Dialogue (f r) rest b := by
  rw [dialogue_bind]
  constructor
  · rintro ⟨first, rest, r, rfl, asked, goesOn⟩
    exact ⟨r, rest, by rw [dialogue_query.mp asked, List.singleton_append], goesOn⟩
  · rintro ⟨r, rest, rfl, goesOn⟩
    exact ⟨[⟨q, r⟩], rest, r, rfl, dialogue_query.mpr rfl, goesOn⟩

@[simp] theorem dialogue_report_bind {e : Logging.Event} {f : Unit → Inquiry β} {t : List Exchange}
    {b : β} : Dialogue (report e >>= f) t b ↔ Dialogue (f ()) t b := by
  constructor
  · intro h
    cases h with
    | note h => exact h
  · exact .note

theorem dialogue_concat_nil {t : List Exchange} {result : List α} :
    Dialogue (concat []) t result ↔ t = [] ∧ result = [] := dialogue_pure

theorem dialogue_concat_cons {i : Inquiry (List α)} {is : List (Inquiry (List α))}
    {t : List Exchange} {result : List α} :
    Dialogue (concat (i :: is)) t result ↔
      ∃ here later first others, t = here ++ later ∧ result = first ++ others ∧
        Dialogue i here first ∧ Dialogue (concat is) later others := by
  simp only [concat, dialogue_bind, dialogue_pure]
  constructor
  · rintro ⟨here, _, first, rfl, now, later, _, others, rfl, after, rfl, rfl⟩
    exact ⟨here, later, first, others, by simp, rfl, now, after⟩
  · rintro ⟨here, later, first, others, rfl, rfl, now, after⟩
    exact ⟨here, later, first, rfl, now, later, [], others, by simp, after, rfl, rfl⟩

theorem dialogue_concat_append {l m : List (Inquiry (List α))} {t : List Exchange}
    {result : List α} :
    Dialogue (concat (l ++ m)) t result ↔
      ∃ here later first others, t = here ++ later ∧ result = first ++ others ∧
        Dialogue (concat l) here first ∧ Dialogue (concat m) later others := by
  induction l generalizing t result with
  | nil =>
    simp only [List.nil_append, dialogue_concat_nil]
    constructor
    · intro h
      exact ⟨[], t, [], result, rfl, rfl, ⟨rfl, rfl⟩, h⟩
    · rintro ⟨_, later, _, others, rfl, rfl, ⟨rfl, rfl⟩, h⟩
      exact h
  | cons i l ih =>
    simp only [List.cons_append, dialogue_concat_cons, ih]
    constructor
    · rintro ⟨t₁, _, x, _, rfl, rfl, now, t₂, t₃, y, z, rfl, rfl, soon, late⟩
      exact ⟨t₁ ++ t₂, t₃, x ++ y, z, by simp, by simp, ⟨t₁, t₂, x, y, rfl, rfl, now, soon⟩, late⟩
    · rintro ⟨_, t₃, _, z, rfl, rfl, ⟨t₁, t₂, x, y, rfl, rfl, now, soon⟩, late⟩
      exact ⟨t₁, t₂ ++ t₃, x, y ++ z, by simp, by simp, now, t₂, t₃, y, z, rfl, rfl, soon, late⟩

/-- The result of an inquiry when a lookup always has the same answer. -/
def value (answers : (q : Query) → q.Result) : Inquiry α → α
  | done a => a
  | ask q next => (next (answers q)).value answers
  | note _ rest => rest.value answers

section Value

variable (answers : (q : Query) → q.Result)

@[simp] theorem value_pure (a : α) : (pure a : Inquiry α).value answers = a := rfl

@[simp] theorem value_bind (i : Inquiry α) (f : α → Inquiry β) :
    (i >>= f).value answers = (f (i.value answers)).value answers := by
  change (i.bind f).value answers = _
  induction i with
  | done a => rfl
  | ask q next ih => exact ih (answers q)
  | note e rest ih => exact ih

@[simp] theorem value_query (q : Query) : (query q).value answers = answers q := rfl

theorem value_query_bind (q : Query) (f : q.Result → Inquiry β) :
    (query q >>= f).value answers = (f (answers q)).value answers := by
  rw [value_bind, value_query]

@[simp] theorem value_concat (is : List (Inquiry (List α))) :
    (concat is).value answers = is.flatMap (·.value answers) := by
  induction is with
  | nil => rfl
  | cons i is ih => simp [concat, ih]

/-- Whatever the answers, a dialogue of just these answers leads to what comes of them. -/
theorem exists_dialogue_value (i : Inquiry α) :
    ∃ t, i.Dialogue t (i.value answers) ∧ ∀ x ∈ t, x.result = answers x.query := by
  induction i with
  | done a => exact ⟨[], .done a, fun _ none => absurd none List.not_mem_nil⟩
  | ask q next ih =>
    obtain ⟨t, course, agrees⟩ := ih (answers q)
    exact ⟨_, .ask course, List.forall_mem_cons.mpr ⟨rfl, agrees⟩⟩
  | note e rest ih =>
    obtain ⟨t, course, agrees⟩ := ih
    exact ⟨t, .note course, agrees⟩

variable {answers}

theorem Dialogue.eq_value {i : Inquiry α} {t : List Exchange} {a : α} (h : Dialogue i t a)
    (agrees : ∀ x ∈ t, x.result = answers x.query) : a = i.value answers := by
  induction h with
  | done a => rfl
  | @ask q next r t a _ ih =>
    -- The answer is that of the first exchange; the others agree by hypothesis.
    have answered : r = answers q := agrees ⟨q, r⟩ List.mem_cons_self
    subst answered
    exact ih fun x member => agrees x (List.mem_cons_of_mem _ member)
  | note _ ih => exact ih agrees

end Value

/-- With some answers, a value is among those that an inquiry comes to. -/
def Finds (i : Inquiry (List α)) (a : α) : Prop := ∃ t found, i.Dialogue t found ∧ a ∈ found

section Finds

variable {i : Inquiry (List α)} {is : List (Inquiry (List α))} {a : α}

theorem finds_nothing : ¬ Finds (pure []) a := by
  rintro ⟨_, _, course, member⟩
  obtain ⟨-, rfl⟩ := dialogue_pure.mp course
  cases member

theorem finds_report_iff {e : Logging.Event} : (report e >>= fun _ => i).Finds a ↔ i.Finds a := by
  simp only [Finds, dialogue_report_bind]

/-- To report what was found changes nothing in it. -/
theorem finds_bind_report_iff {e : List α → Logging.Event} :
    Finds (do let found ← i; report (e found); return found) a ↔ i.Finds a := by
  constructor
  · rintro ⟨_, _, course, member⟩
    obtain ⟨t, _, found, -, now, after⟩ := dialogue_bind.mp course
    have ended := dialogue_report_bind.mp after
    obtain ⟨-, rfl⟩ := dialogue_pure.mp ended
    exact ⟨t, _, now, member⟩
  · rintro ⟨t, found, course, member⟩
    have ended : Dialogue (pure found) [] found := dialogue_pure.mpr ⟨rfl, rfl⟩
    exact ⟨_, _, dialogue_bind.mpr ⟨t, [], found, rfl, course, dialogue_report_bind.mpr ended⟩, member⟩

theorem finds_of_mem_value {answers : (q : Query) → q.Result} (member : a ∈ i.value answers) :
    i.Finds a := by
  obtain ⟨t, course, -⟩ := exists_dialogue_value answers i
  exact ⟨t, _, course, member⟩

theorem finds_concat_cons_iff :
    (concat (i :: is)).Finds a ↔ i.Finds a ∨ (concat is).Finds a := by
  constructor
  · rintro ⟨_, _, course, member⟩
    obtain ⟨here, later, first, others, -, rfl, now, after⟩ := dialogue_concat_cons.mp course
    exact (List.mem_append.mp member).imp (⟨here, first, now, ·⟩) (⟨later, others, after, ·⟩)
  -- Whatever one of the two comes to, the other one comes to something as well.
  · rintro (⟨t, found, course, member⟩ | ⟨t, found, course, member⟩)
    · obtain ⟨u, after, -⟩ := exists_dialogue_value (fun _ => .error .cancelled) (concat is)
      exact ⟨_, _, dialogue_concat_cons.mpr ⟨t, u, _, _, rfl, rfl, course, after⟩,
        List.mem_append_left _ member⟩
    · obtain ⟨u, now, -⟩ := exists_dialogue_value (fun _ => .error .cancelled) i
      exact ⟨_, _, dialogue_concat_cons.mpr ⟨u, t, _, _, rfl, rfl, now, course⟩,
        List.mem_append_right _ member⟩

theorem finds_concat_iff : (concat is).Finds a ↔ ∃ i ∈ is, i.Finds a := by
  induction is with
  | nil => exact iff_of_false finds_nothing (by simp)
  | cons i is ih => simp only [finds_concat_cons_iff, ih, List.mem_cons, exists_eq_or_imp]

end Finds

end Inquiry

end InstallCheck.Check
