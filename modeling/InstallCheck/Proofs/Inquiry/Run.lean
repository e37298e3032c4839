import InstallCheck.Proofs.Inquiry.Dialogue

/-!
Runs of inquiries follow dialogues. In a run that nothing disturbs, every lookup is made and its
answer is the one that the cloud has for it; in a run that is cancelled already no lookup is made.
-/
namespace InstallCheck.Check

open Cloud (Query Reply)

/-- A lookup comes back in time, and the run is not cancelled meanwhile. -/
def Timely (limit : Duration) {q : Query} (r : Reply q) : Prop :=
  r.cancels = false ∧ r.elapsed ≤ limit

/-- Lookups made one after the other, after some earlier ones, with the answers of a cloud. -/
def transcript (cloud : Cloud) (limit : Duration) : List Query → List Query → List Exchange
  | _, [] => []
  | earlier, q :: rest =>
    ⟨q, (cloud limit earlier q).result⟩ :: transcript cloud limit (earlier ++ [q]) rest

/-- The lookups in a transcript are those that were made. -/
@[simp] theorem map_query_transcript (cloud : Cloud) (limit : Duration) (earlier calls : List Query) :
    (transcript cloud limit earlier calls).map (·.query) = calls := by
  induction calls generalizing earlier with
  | nil => rfl
  | cons q rest ih => simp [transcript, ih]

/-- The answers in a transcript are the cloud's. -/
theorem mem_transcript {cloud : Cloud} {limit : Duration} {earlier calls : List Query}
    {x : Exchange} :
    x ∈ transcript cloud limit earlier calls ↔
      ∃ before after, calls = before ++ x.query :: after ∧
        x.result = (cloud limit (earlier ++ before) x.query).result := by
  induction calls generalizing earlier with
  | nil => simp [transcript]
  | cons q rest ih =>
    rw [transcript, List.mem_cons, ih]
    constructor
    · rintro (rfl | ⟨before, after, rfl, answered⟩)
      · exact ⟨[], rest, rfl, by rw [List.append_nil]⟩
      · exact ⟨q :: before, after, rfl, by rwa [List.append_cons]⟩
    · rintro ⟨before, after, split, answered⟩
      cases before with
      | nil =>
        obtain ⟨rfl, rfl⟩ := List.cons.inj split
        left
        rw [List.append_nil] at answered
        rw [← answered]
      | cons q before =>
        obtain ⟨rfl, rfl⟩ := List.cons.inj split
        exact .inr ⟨before, after, rfl, by rwa [List.append_cons] at answered⟩

namespace Session

/-- No lookup of a run took too long, and the run was not cancelled in the course of one. -/
def Undisturbed (cloud : Cloud) (s : Session) : Prop :=
  ∀ earlier q later, s.calls = earlier ++ q :: later → Timely s.limit (cloud s.limit earlier q)

variable {cloud : Cloud} {s : Session} {q : Query}

theorem undisturbed_of_timely (timely : ∀ earlier q, Timely s.limit (cloud s.limit earlier q)) :
    s.Undisturbed cloud :=
  fun earlier q _ _ => timely earlier q

@[simp] theorem lookup_of_cancelled (up : s.cancelled = true) :
    s.lookup cloud q = (.error .cancelled, s.log (skipped q)) := by
  simp [lookup, up]

@[simp] theorem lookup_limit : (s.lookup cloud q).2.limit = s.limit := by
  unfold lookup
  split <;> rfl

theorem lookup_calls (down : s.cancelled = false) :
    (s.lookup cloud q).2.calls = s.calls ++ [q] := by
  simp [lookup, down, log]

theorem lookup_cancelled (down : s.cancelled = false) :
    (s.lookup cloud q).2.cancelled = (cloud s.limit s.calls q).cancels := by
  simp [lookup, down, log]

theorem lookup_result (down : s.cancelled = false)
    (timely : Timely s.limit (cloud s.limit s.calls q)) :
    (s.lookup cloud q).1 = (cloud s.limit s.calls q).result := by
  have inTime : ¬ s.limit < (cloud s.limit s.calls q).elapsed := Nat.not_lt.mpr timely.2
  simp [lookup, down, Lookup.settle, timely.1, inTime]

/-- A lookup is cut short, or it was made and its result is the cloud's. -/
theorem lookup_outcome (cloud : Cloud) (s : Session) (q : Query) :
    (s.lookup cloud q).1 = .error .cancelled ∨ (s.lookup cloud q).1 = .error (.timeout s.limit) ∨
      ((s.lookup cloud q).2.calls = s.calls ++ [q] ∧
        (s.lookup cloud q).1 = (cloud s.limit s.calls q).result) := by
  unfold lookup Lookup.settle
  split
  · exact .inl rfl
  · dsimp only
    split
    · exact .inl rfl
    · split
      · exact .inr (.inl rfl)
      · exact .inr (.inr ⟨rfl, rfl⟩)

theorem lookup_raised (down : s.cancelled = false)
    (raised : (cloud s.limit s.calls q).cancels = true) :
    (s.lookup cloud q).1 = .error .cancelled := by
  simp [lookup, down, Lookup.settle, raised]

end Session

namespace Inquiry

variable {α : Type} {cloud : Cloud}

theorem run_ask (q : Query) (next : q.Result → Inquiry α) (s : Session) :
    (ask q next).run cloud s = (next (s.lookup cloud q).1).run cloud (s.lookup cloud q).2 := rfl

@[simp] theorem run_limit (i : Inquiry α) (s : Session) : (i.run cloud s).2.limit = s.limit := by
  induction i generalizing s with
  | done a => rfl
  | ask q next ih => rw [run_ask, ih, Session.lookup_limit]
  | note e rest ih => exact ih (s.log e)

/-- What a run yields whose states keep a property that settles the result of every lookup. -/
theorem run_of_invariant (cloud : Cloud) (holds : Session → Prop) {answers : (q : Query) → q.Result}
    (logs : ∀ s e, holds s → holds (s.log e))
    (looks : ∀ s q, holds s → (s.lookup cloud q).1 = answers q ∧ holds (s.lookup cloud q).2)
    (i : Inquiry α) {s : Session} (start : holds s) :
    (i.run cloud s).1 = i.value answers ∧ holds (i.run cloud s).2 := by
  induction i generalizing s with
  | done a => exact ⟨rfl, start⟩
  | note e rest ih => exact ih (logs s e start)
  | ask q next ih =>
    obtain ⟨answered, goesOn⟩ := looks s q start
    rw [run_ask, answered]
    exact ih _ goesOn

theorem run_of_cancelled (cloud : Cloud) (i : Inquiry α) {s : Session} (up : s.cancelled = true) :
    (i.run cloud s).1 = i.value (fun _ => .error .cancelled) ∧
      (i.run cloud s).2.calls = s.calls := by
  have looks (t : Session) (q : Query) (kept : t.cancelled = true ∧ t.calls = s.calls) :
      (t.lookup cloud q).1 = .error .cancelled ∧
        (t.lookup cloud q).2.cancelled = true ∧ (t.lookup cloud q).2.calls = s.calls := by
    rw [Session.lookup_of_cancelled kept.1]
    exact ⟨rfl, kept⟩
  obtain ⟨yields, -, calls⟩ := i.run_of_invariant cloud
    (fun t => t.cancelled = true ∧ t.calls = s.calls) (fun _ _ kept => kept) looks ⟨up, rfl⟩
  exact ⟨yields, calls⟩

/-- The lookups of a run come after those made before it. -/
theorem prefix_run_calls (cloud : Cloud) (i : Inquiry α) (s : Session) :
    s.calls <+: (i.run cloud s).2.calls := by
  induction i generalizing s with
  | done a => exact List.prefix_rfl
  | ask q next ih =>
    -- A cancelled run makes no further lookup; any other one makes this lookup and goes on.
    cases up : s.cancelled with
    | true =>
      rw [run_ask, Session.lookup_of_cancelled up]
      exact ih _ (s.log (Session.skipped q))
    | false =>
      have made : s.calls <+: (s.lookup cloud q).2.calls := by
        rw [Session.lookup_calls up]
        exact List.prefix_append _ _
      exact made.trans (ih _ _)
  | note e rest ih => exact ih (s.log e)

/-- Every run follows a dialogue, disturbed or not: its answers are the cloud's to the lookups that were
made, or that a lookup was cut short. -/
theorem exists_dialogue_run (cloud : Cloud) (i : Inquiry α) (s : Session) :
    ∃ t, i.Dialogue t (i.run cloud s).1 ∧ ∀ x ∈ t,
      x.result = .error .cancelled ∨ x.result = .error (.timeout s.limit) ∨
        ∃ earlier later, (i.run cloud s).2.calls = earlier ++ x.query :: later ∧
          x.result = (cloud s.limit earlier x.query).result := by
  induction i generalizing s with
  | done a => exact ⟨[], .done a, fun _ none => absurd none List.not_mem_nil⟩
  | note e rest ih =>
    obtain ⟨t, course, outcomes⟩ := ih (s.log e)
    exact ⟨t, .note course, outcomes⟩
  | ask q next ih =>
    obtain ⟨t, course, outcomes⟩ := ih (s.lookup cloud q).1 (s.lookup cloud q).2
    rw [Session.lookup_limit] at outcomes
    refine ⟨⟨q, (s.lookup cloud q).1⟩ :: t, .ask course, List.forall_mem_cons.mpr ⟨?_, outcomes⟩⟩
    rcases Session.lookup_outcome cloud s q with cut | late | ⟨made, answered⟩
    · exact .inl cut
    · exact .inr (.inl late)
    -- The lookup stands among those of the whole run, right after the ones before it.
    · obtain ⟨later, all⟩ :=
        prefix_run_calls cloud (next (s.lookup cloud q).1) (s.lookup cloud q).2
      rw [made, List.append_assoc] at all
      exact .inr (.inr ⟨s.calls, later, all.symm, answered⟩)

theorem finds_of_mem_run {i : Inquiry (List α)} {a : α} {s : Session} (member : a ∈ (i.run cloud s).1) :
    i.Finds a := by
  obtain ⟨t, course, -⟩ := exists_dialogue_run cloud i s
  exact ⟨t, _, course, member⟩

/-- If a run that goes on after a lookup is undisturbed, then that lookup was timely. -/
theorem timely_of_undisturbed (rest : Inquiry α) {asked left : Cloud} {s : Session} {q : Query}
    (down : s.cancelled = false)
    (calm : (rest.run left (s.lookup asked q).2).2.Undisturbed cloud) :
    Timely s.limit (cloud s.limit s.calls q) := by
  obtain ⟨later, made⟩ := prefix_run_calls left rest (s.lookup asked q).2
  rw [Session.lookup_calls down, List.append_assoc] at made
  have timely := calm s.calls q later made.symm
  rwa [run_limit, Session.lookup_limit] at timely

/-- A run that nothing disturbs makes every lookup of a dialogue with the cloud. -/
theorem run_of_undisturbed (i : Inquiry α) {s : Session} (down : s.cancelled = false)
    (calm : (i.run cloud s).2.Undisturbed cloud) :
    ∃ calls, (i.run cloud s).2.calls = s.calls ++ calls ∧
      Dialogue i (transcript cloud s.limit s.calls calls) (i.run cloud s).1 := by
  induction i generalizing s with
  | done a => exact ⟨[], (List.append_nil _).symm, .done a⟩
  | note e rest ih =>
    obtain ⟨calls, made, course⟩ := ih (s := s.log e) down calm
    exact ⟨calls, made, .note course⟩
  | ask q next ih =>
    rw [run_ask] at calm ⊢
    -- The lookup stands in the calls of the whole run, which is how it is known to be timely.
    have timely := timely_of_undisturbed _ down calm
    have stillDown : (s.lookup cloud q).2.cancelled = false :=
      (Session.lookup_cancelled down).trans timely.1
    obtain ⟨calls, made, course⟩ := ih (s.lookup cloud q).1 stillDown calm
    -- What is left is to put the answer of the cloud at the head of the transcript.
    rw [Session.lookup_calls down] at made course
    rw [Session.lookup_limit] at course
    refine ⟨q :: calls, by rw [made, List.append_assoc, List.singleton_append], ?_⟩
    have answered := Session.lookup_result down timely
    rw [transcript, ← answered]
    exact .ask course

/-- What a run yields that nothing disturbs, of a cloud that always answers a lookup alike. -/
theorem run_eq_value (i : Inquiry α) {s : Session} {answers : (q : Query) → q.Result}
    (steady : ∀ earlier q, (cloud s.limit earlier q).result = answers q) (down : s.cancelled = false)
    (calm : (i.run cloud s).2.Undisturbed cloud) : (i.run cloud s).1 = i.value answers := by
  obtain ⟨calls, -, course⟩ := i.run_of_undisturbed down calm
  apply course.eq_value
  intro x member
  obtain ⟨before, -, -, answered⟩ := mem_transcript.mp member
  exact answered.trans (steady _ _)

end Inquiry

end InstallCheck.Check
