import InstallCheck.Proofs.Check.Isolation
import InstallCheck.Proofs.Check.Likeness

/-!
What an error says never matters to a check, only of which kind it is. Two clouds whose answers differ in
the wording of their errors alone are asked the same, and the reports on them differ only in the reasons
that they give for questions left open.
-/
namespace InstallCheck

/-- Errors of the same kind, whatever they say about the resource, the operation or the time limit. -/
inductive LookupError.SameKind : LookupError → LookupError → Prop
  | notFound (resource id resource' id' : String) :
    SameKind (.notFound resource id) (.notFound resource' id')
  | cancelled : SameKind .cancelled .cancelled
  | timeout (limit limit' : Duration) : SameKind (.timeout limit) (.timeout limit')
  | transport (operation message operation' message' : String) :
    SameKind (.transport operation message) (.transport operation' message')

namespace Check

open Cloud (Query)
open InstallCheck.Field (Issue Path)

theorem withinClasses_sameKind : WithinClasses LookupError.SameKind :=
  ⟨fun same => by cases same <;> rfl, fun same => by cases same <;> rfl⟩

/-- The same answer to a lookup, or errors of the same kind. -/
inductive SameButWording (q : Query) : q.Result → q.Result → Prop
  | error {e e' : LookupError} : e.SameKind e' → SameButWording q (.error e) (.error e')
  | ok (answer : q.Answer) : SameButWording q (.ok answer) (.ok answer)

theorem SameButWording.alike {q : Query} {r r' : q.Result} (same : SameButWording q r r') :
    ResultsAlike LookupError.SameKind q r r' := by
  cases same with
  | error same => exact .error same
  | ok answer => exact .ok (Query.readAlike_refl answer)

/-- Two issues with the same place, kind and value; the details are the same too, unless they are reasons
for which a question is left open. -/
structure SameButReason (i j : Issue) : Prop where
  path : i.path = j.path
  kind : i.kind = j.kind
  value : i.value = j.value
  detail : i.kind ≠ .internalError → i.detail = j.detail

theorem IssuesAlike.sameButReason {errors : LookupError → LookupError → Prop} {i j : Issue}
    (alike : IssuesAlike errors i j) : SameButReason i j := by
  cases alike with
  | same i => exact ⟨rfl, rfl, rfl, fun _ => rfl⟩
  | leftOpen _ => exact ⟨rfl, rfl, rfl, fun closed => absurd rfl closed⟩

namespace Service

variable {s t : Service} {c : Install.Config} {p : Install.Platform} {limit : Duration}

/-- **No check depends on what an error says.** If two clouds answer alike after the same lookups, but
for the texts and times in their errors, then undisturbed checks of an install config make the same
lookups in the same order against both, and their reports agree issue by issue but for the reasons why
questions are left open. -/
theorem check_ignores_wording (sameRegions : s.regions = t.regions) (given : c.platform = some p)
    (agree : ∀ earlier q,
      SameButWording q (s.cloud limit earlier q).result (t.cloud limit earlier q).result)
    (calm : (s.check (.start limit false) c).2.Undisturbed s.cloud)
    (calmToo : (t.check (.start limit false) c).2.Undisturbed t.cloud) :
    (s.check (.start limit false) c).2.calls = (t.check (.start limit false) c).2.calls ∧
      ∃ report reportToo,
        (s.check (.start limit false) c).1 = .ok report ∧
        (t.check (.start limit false) c).1 = .ok reportToo ∧
        List.Forall₂ SameButReason report reportToo := by
  rw [check_of_platform given] at calm calmToo ⊢
  rw [check_of_platform given]
  rw [sameRegions] at calm ⊢
  obtain ⟨alike, calls⟩ := (checks_alike withinClasses_sameKind t.regions c p).run
    (s := .start limit false) (t := .start limit false)
    (fun earlier q => (agree earlier q).alike) rfl rfl rfl rfl calm calmToo
  exact ⟨calls, _, _, rfl, rfl, alike.imp fun _ _ => IssuesAlike.sameButReason⟩

/-- A cloud on which failed lookups fail with other words. -/
def reworded (reword : LookupError → LookupError) (cloud : Cloud) : Cloud := fun limit earlier q =>
  { cloud limit earlier q with result := (cloud limit earlier q).result.mapError reword }

/-- An error of the same kind that sounds like another one. -/
def misleading : LookupError → LookupError
  | .notFound _ id => .notFound "connection" id
  | .cancelled => .cancelled
  | .timeout _ => .timeout ⟨0⟩
  | .transport operation _ => .transport operation "VPC not found: lookup cancelled"

theorem sameButWording_misleading {cloud : Cloud} (earlier : List Query) (q : Query) :
    SameButWording q (cloud limit earlier q).result
      (reworded misleading cloud limit earlier q).result := by
  unfold reworded
  cases (cloud limit earlier q).result with
  | ok answer => exact .ok answer
  | error e =>
    refine .error ?_
    cases e with
    | notFound => exact .notFound ..
    | cancelled => exact .cancelled
    | timeout => exact .timeout ..
    | transport => exact .transport ..

/-- The connection is lost after six lookups; that the error then claims that something was not found
leads to the same lookups and the same kinds of issues. -/
theorem check_ignores_wording_misleading :
    let other : Service := { Sample.service with cloud := reworded misleading Sample.weary }
    (Sample.service.check (.start (.ofSeconds 60) false) Sample.config).2.calls =
        (other.check (.start (.ofSeconds 60) false) Sample.config).2.calls ∧
      ∃ report reportToo,
        (Sample.service.check (.start (.ofSeconds 60) false) Sample.config).1 = .ok report ∧
        (other.check (.start (.ofSeconds 60) false) Sample.config).1 = .ok reportToo ∧
        report ≠ reportToo ∧ List.Forall₂ SameButReason report reportToo := by
  intro other
  have calm {session : Session} : session.Undisturbed other.cloud :=
    Session.undisturbed_of_timely fun _ _ => ⟨rfl, Nat.zero_le _⟩
  obtain ⟨calls, report, reportToo, checked, checkedToo, same⟩ :=
    check_ignores_wording (s := Sample.service) (t := other) (c := Sample.config)
      (p := Sample.platform) rfl rfl sameButWording_misleading Sample.undisturbed_weary calm
  refine ⟨calls, report, reportToo, checked, checkedToo, ?_, same⟩
  rintro rfl
  have differ : (Sample.service.check (.start (.ofSeconds 60) false) Sample.config).1 ≠
      (other.check (.start (.ofSeconds 60) false) Sample.config).1 := by decide +kernel
  exact differ (checked.trans checkedToo.symm)

end Service

end Check

end InstallCheck
