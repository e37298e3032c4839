import InstallCheck.Proofs.Inquiry.Run
import Mathlib.Data.List.Forall2

/-!
Two inquiries side by side. Related inquiries make the same lookups, and as long as what they get is
related, what they end with is related too; what they log does not matter.
-/
namespace InstallCheck.Check.Inquiry

open Cloud (Query)

variable {α β γ δ : Type}

/-- Inquiries that ask the same and end with related values, as long as they get related results. -/
inductive Related (results : (q : Query) → q.Result → q.Result → Prop) (values : α → β → Prop) :
    Inquiry α → Inquiry β → Prop
  | done {a : α} {b : β} : values a b → Related results values (.done a) (.done b)
  | ask {q : Query} {next : q.Result → Inquiry α} {others : q.Result → Inquiry β} :
    (∀ r r', results q r r' → Related results values (next r) (others r')) →
    Related results values (.ask q next) (.ask q others)
  | note {e e' : Logging.Event} {i : Inquiry α} {j : Inquiry β} :
    Related results values i j → Related results values (.note e i) (.note e' j)

variable {results : (q : Query) → q.Result → q.Result → Prop} {values : α → β → Prop}
  {ends : γ → δ → Prop}

theorem Related.pure {a : α} {b : β} (related : values a b) :
    Related results values (pure a) (pure b) := .done related

theorem Related.bind {i : Inquiry α} {j : Inquiry β} {f : α → Inquiry γ} {g : β → Inquiry δ}
    (first : Related results values i j)
    (rest : ∀ a b, values a b → Related results ends (f a) (g b)) :
    Related results ends (i >>= f) (j >>= g) := by
  change Related results ends (i.bind f) (j.bind g)
  -- The lookups of the first inquiries come first; where those end, the others begin.
  induction first with
  | done related => exact rest _ _ related
  | ask _ ih => exact .ask ih
  | note _ ih => exact .note ih

theorem Related.query_bind {q : Query} {f : q.Result → Inquiry α} {g : q.Result → Inquiry β}
    (rest : ∀ r r', results q r r' → Related results values (f r) (g r')) :
    Related results values (query q >>= f) (query q >>= g) := .ask rest

theorem Related.report_bind {e e' : Logging.Event} {f : Unit → Inquiry α} {g : Unit → Inquiry β}
    (rest : Related results values (f ()) (g ())) :
    Related results values (report e >>= f) (report e' >>= g) := .note rest

/-- Lists of inquiries that are related one by one yield lists that are related one by one. -/
theorem Related.concat {is : List (Inquiry (List α))} {js : List (Inquiry (List β))}
    (each : List.Forall₂ (Related results (List.Forall₂ values)) is js) :
    Related results (List.Forall₂ values) (concat is) (concat js) := by
  induction each with
  | nil => exact .pure .nil
  | cons first _ ih =>
    exact first.bind fun _ _ here => ih.bind fun _ _ there => .pure (List.rel_append here there)

/-- Under related answers related inquiries come to related values. -/
theorem Related.value {i : Inquiry α} {j : Inquiry β} {answers others : (q : Query) → q.Result}
    (related : Related results values i j) (agree : ∀ q, results q (answers q) (others q)) :
    values (i.value answers) (j.value others) := by
  induction related with
  | done related => exact related
  | ask _ ih => exact ih _ _ (agree _)
  | note _ ih => exact ih

/-- Related inquiries stay in step in runs that nothing disturbs, if their clouds have related results
after the same lookups: they make the same lookups and come to related values. -/
theorem Related.run {i : Inquiry α} {j : Inquiry β} {cloud other : Cloud} {s t : Session}
    (related : Related results values i j)
    (agree : ∀ earlier q,
      results q (cloud s.limit earlier q).result (other s.limit earlier q).result)
    (sameLimit : t.limit = s.limit) (sameCalls : t.calls = s.calls)
    (down : s.cancelled = false) (downToo : t.cancelled = false)
    (calm : (i.run cloud s).2.Undisturbed cloud) (calmToo : (j.run other t).2.Undisturbed other) :
    values (i.run cloud s).1 (j.run other t).1 ∧
      (i.run cloud s).2.calls = (j.run other t).2.calls := by
  induction related generalizing s t with
  | done related => exact ⟨related, sameCalls.symm⟩
  | @note e e' _ _ _ ih =>
    exact ih (s := s.log e) (t := t.log e') agree sameLimit sameCalls down downToo calm calmToo
  | @ask q next others _ ih =>
    rw [run_ask] at calm calmToo ⊢
    rw [run_ask]
    -- Both lookups are made in time after the same ones, so their results are those of the clouds.
    have timely := timely_of_undisturbed _ down calm
    have timelyToo := timely_of_undisturbed _ downToo calmToo
    have alike : results q (s.lookup cloud q).1 (t.lookup other q).1 := by
      rw [Session.lookup_result down timely, Session.lookup_result downToo timelyToo, sameLimit,
        sameCalls]
      exact agree _ q
    apply ih _ _ alike
    · rwa [Session.lookup_limit]
    · rw [Session.lookup_limit, Session.lookup_limit, sameLimit]
    · rw [Session.lookup_calls down, Session.lookup_calls downToo, sameCalls]
    · exact (Session.lookup_cancelled down).trans timely.1
    · exact (Session.lookup_cancelled downToo).trans timelyToo.1
    · exact calm
    · exact calmToo

end InstallCheck.Check.Inquiry
