import InstallCheck.Lookup.Context

/-!
Flags that cancel, and time limits, over any history of flags and contexts. Which handles share a flag is
told by the step that made the flag; a context sees cancellation exactly when a handle of the flag that it
holds has been used to cancel, in a call or outside. The limit of a context was set last for it, or for the
context that it was copied from. Calls are histories too: what a call does is what its steps do.
-/
namespace InstallCheck.Lookup

/-- What holds a flag: something that was made to hold it, or a context. -/
inductive Handle
  | holder (n : Nat)
  | context (n : Nat)
  deriving DecidableEq, Repr

namespace Board

/-- A single thing that is done with flags and contexts. -/
inductive Step
  | newFlag
  | copyFlag (handle : Handle)
  | cancel (handle : Handle)
  | newContext
  | copyContext (context : Nat)
  | tie (context holder : Nat)
  | setLimit (context : Nat) (limit : Duration)
  deriving DecidableEq, Repr

/-- The board after a step. -/
def apply (b : Board) : Step → Board
  | .newFlag => b.newFlag
  | .copyFlag (.holder holder) => b.copyFlag holder
  | .copyFlag (.context context) => b.holdFlag context
  | .cancel (.holder holder) => b.raise holder
  | .cancel (.context context) => b.cancel context
  | .newContext => b.newContext
  | .copyContext context => b.copyContext context
  | .tie context holder => b.tie context holder
  | .setLimit context limit => b.setLimit context limit

/-- What can be done with flags and contexts: a step, or a call under a context in the course of which
more is done. How long the call takes and what it results in makes no difference to flags. -/
inductive Operation
  | step (s : Step)
  | run (context : Nat) (course : List Operation)

mutual

/-- The board after an operation. -/
def perform (b : Board) : Operation → Board
  | .step s => b.apply s
  | .run context course =>
    (b.attempt context fun b => ((.ok () : Except LookupError Unit), ⟨0⟩, performAll b course)).2.2

/-- The board after operations one after the other. -/
def performAll (b : Board) : List Operation → Board
  | [] => b
  | o :: rest => performAll (perform b o) rest

end

mutual

/-- The steps that an operation takes: those in the course of a call are taken if the call is made. -/
def steps (b : Board) : Operation → List Step
  | .step s => [s]
  | .run context course =>
    if context < b.contexts.length ∧ b.isCancelled context = false then stepsAll b course else []

/-- The steps that operations take one after the other. -/
def stepsAll (b : Board) : List Operation → List Step
  | [] => []
  | o :: rest => steps b o ++ stepsAll (perform b o) rest

end

/-- The board after a history of steps, of which the last one comes first. -/
def after : List Step → Board
  | [] => empty
  | s :: past => (after past).apply s

/-- A step that ties a handle to the flag of a holder. -/
def Step.Ties (s : Step) (b : Board) (h : Handle) : Prop :=
  ∃ context holder, s = .tie context holder ∧ h = .context context ∧ holder < b.holders.length

/-- Which flag a handle holds after a history, by the number of steps that were taken before the flag was
made. Every new flag and every new context has a flag of its own, copies share one, and a context that is
tied to a holder lets go of what it held. -/
inductive Holds : List Step → Handle → Nat → Prop
  | newFlag {past : List Step} :
    Holds (.newFlag :: past) (.holder (after past).holders.length) past.length
  | newContext {past : List Step} :
    Holds (.newContext :: past) (.context (after past).contexts.length) past.length
  | copyFlag {past : List Step} {h : Handle} {flag : Nat} :
    Holds past h flag → Holds (.copyFlag h :: past) (.holder (after past).holders.length) flag
  | copyContext {past : List Step} {context flag : Nat} :
    Holds past (.context context) flag →
    Holds (.copyContext context :: past) (.context (after past).contexts.length) flag
  | tie {past : List Step} {context holder flag : Nat} :
    context < (after past).contexts.length → Holds past (.holder holder) flag →
    Holds (.tie context holder :: past) (.context context) flag
  | keep {past : List Step} {s : Step} {h : Handle} {flag : Nat} :
    Holds past h flag → ¬ s.Ties (after past) h → Holds (s :: past) h flag

/-- Some step of a history cancelled through a handle that held the flag then. -/
def Cancelled (history : List Step) (flag : Nat) : Prop :=
  ∃ later h past, history = later ++ .cancel h :: past ∧ Holds past h flag

/-- The time limit of a context after a history, in nanoseconds. A new context has a limit of sixty
seconds, and a copy that of the context it is made of. A limit that is set stands until another one is. -/
inductive Limited : List Step → Nat → Nat → Prop
  | newContext {past : List Step} :
    Limited (.newContext :: past) (after past).contexts.length 60000000000
  | copyContext {past : List Step} {context nanos : Nat} :
    Limited past context nanos →
    Limited (.copyContext context :: past) (after past).contexts.length nanos
  | setLimit {past : List Step} {context nanos old : Nat} :
    Limited past context old → Limited (.setLimit context ⟨nanos⟩ :: past) context nanos
  | keep {past : List Step} {s : Step} {context nanos : Nat} :
    Limited past context nanos → (∀ limit, s ≠ .setLimit context limit) →
    Limited (s :: past) context nanos

section Performing

mutual

theorem perform_eq_foldl (b : Board) : (o : Operation) → b.perform o = (b.steps o).foldl apply b
  | .step s => rfl
  | .run context course => by
    -- The board of a call that is made is the one after its course, so the course's steps are all.
    unfold perform steps attempt
    cases found : b.contexts[context]? with
    | none =>
      have missing := List.getElem?_eq_none_iff.mp found
      simp [Nat.not_lt.mpr missing]
    | some c =>
      obtain ⟨there, -⟩ := List.getElem?_eq_some_iff.mp found
      by_cases up : b.isCancelled context = true
      · simp [up]
      · simp [up, there, performAll_eq_foldl b course]

theorem performAll_eq_foldl (b : Board) :
    (os : List Operation) → b.performAll os = (b.stepsAll os).foldl apply b
  | [] => rfl
  | o :: rest => by
    rw [performAll, stepsAll, List.foldl_append, ← perform_eq_foldl b o]
    exact performAll_eq_foldl _ rest

end

theorem foldl_apply_after (history taken : List Step) :
    taken.foldl apply (after history) = after (taken.reverse ++ history) := by
  induction taken generalizing history with
  | nil => rfl
  | cons s taken ih =>
    rw [List.foldl_cons, List.reverse_cons, List.append_assoc]
    exact ih (s :: history)

end Performing

section Stepping

variable {b : Board} {s : Step} {h : Handle} {context flag : Nat}

/-- The flag that a handle holds, as the board numbers it. -/
def flag? (b : Board) : Handle → Option Nat
  | .holder n => b.holders[n]?
  | .context n => (b.contexts[n]?).map (·.flag)

theorem isCancelled_iff :
    b.isCancelled context = true ↔
      ∃ flag, b.flag? (.context context) = some flag ∧ b.isRaised flag = true := by
  unfold isCancelled flag?
  cases held : b.contexts[context]? <;> simp [held]

theorem apply_copyFlag :
    b.apply (.copyFlag h) =
      match b.flag? h with
      | some flag => { b with holders := b.holders ++ [flag] }
      | none => b := by
  cases h with
  | holder n => rfl
  | context n => simp only [apply, holdFlag, flag?]; cases b.contexts[n]? <;> rfl

theorem apply_cancel :
    b.apply (.cancel h) =
      match b.flag? h with
      | some flag => b.raiseFlag flag
      | none => b := by
  cases h with
  | holder n => rfl
  | context n => simp only [apply, cancel, flag?]; cases b.contexts[n]? <;> rfl

/-- Whether a step makes a flag. -/
def Step.makesFlag : Step → Bool
  | newFlag | newContext => true
  | _ => false

/-- The handle that a step gives a flag, if there is one: a new handle, or a context that is tied. -/
def given? (b : Board) : Step → Option (Handle × Nat)
  | .newFlag => some (.holder b.holders.length, b.raised.length)
  | .newContext => some (.context b.contexts.length, b.raised.length)
  | .copyFlag h => (b.flag? h).map fun flag => (.holder b.holders.length, flag)
  | .copyContext context =>
    (b.flag? (.context context)).map fun flag => (.context b.contexts.length, flag)
  | .tie context holder =>
    (b.flag? (.context context)).bind fun _ =>
      (b.flag? (.holder holder)).map fun flag => (.context context, flag)
  | .cancel _ | .setLimit .. => none

theorem getElem?_concat_eq {α : Type} {l : List α} {a : α} {i : Nat} :
    (l ++ [a])[i]? = if i = l.length then some a else l[i]? := by
  rw [List.getElem?_append]
  split
  · rw [if_neg (by omega)]
  · split
    · simp [*]
    · rw [List.getElem?_eq_none_iff.mpr (by simp; omega), List.getElem?_eq_none_iff.mpr (by omega)]

theorem flag?_mk {raised : List Bool} : (mk raised b.holders b.contexts).flag? h = b.flag? h := by
  cases h <;> rfl

theorem flag?_addHolder {raised : List Bool} :
    (mk raised (b.holders ++ [flag]) b.contexts).flag? h =
      if h = .holder b.holders.length then some flag else b.flag? h := by
  cases h <;> simp [flag?, getElem?_concat_eq]

theorem flag?_addContext {raised : List Bool} {c : Context} :
    (mk raised b.holders (b.contexts ++ [c])).flag? h =
      if h = .context b.contexts.length then some c.flag else b.flag? h := by
  cases h with
  | holder n => simp [flag?]
  | context n =>
    simp only [flag?, getElem?_concat_eq, Handle.context.injEq]
    split <;> rfl

theorem flag?_tie {holder : Nat} :
    (b.tie context holder).flag? h =
      if h = .context context then
        (b.flag? (.context context)).map fun old => (b.flag? (.holder holder)).getD old
      else b.flag? h := by
  cases held : b.holders[holder]? with
  | none =>
    have same : b.tie context holder = b := by simp [tie, held]
    have lost : b.flag? (.holder holder) = none := held
    rw [same, lost]
    split
    · next tied => subst tied; simp
    · rfl
  | some flag =>
    have found : b.flag? (.holder holder) = some flag := held
    cases h with
    | holder n => simp [tie, held, flag?]
    | context n =>
      rw [found]
      simp only [tie, held, flag?, List.getElem?_modify, Handle.context.injEq, Option.getD_some]
      by_cases same : n = context
      · subst same
        cases b.contexts[n]? <;> simp
      · cases b.contexts[n]? <;> simp [same, Ne.symm same]

/-- A step gives a flag to one handle at most; every other handle holds what it held. -/
theorem flag?_apply :
    (b.apply s).flag? h =
      match b.given? s with
      | some (g, flag) => if h = g then some flag else b.flag? h
      | none => b.flag? h := by
  cases s with
  | newFlag => exact flag?_addHolder
  | newContext => exact flag?_addContext
  | copyFlag source =>
    rw [apply_copyFlag, given?]
    cases b.flag? source with
    | none => rfl
    | some f => exact @flag?_addHolder b h f b.raised
  | cancel source =>
    rw [apply_cancel]
    cases b.flag? source with
    | none => rfl
    | some f => exact flag?_mk
  | copyContext m =>
    cases held : b.contexts[m]? with
    | none => simp [apply, copyContext, given?, flag?, held]
    | some c =>
      simp only [apply, copyContext, given?, held, flag?, Option.map_some]
      exact @flag?_addContext b h b.raised c
  | tie m holder =>
    simp only [apply, given?]
    rw [flag?_tie]
    cases there : b.flag? (.context m) with
    | none =>
      simp only [Option.map_none, Option.bind_none, ite_eq_right_iff]
      rintro rfl
      exact there.symm
    | some old =>
      cases held : b.flag? (.holder holder) with
      | none =>
        simp only [Option.map_some, Option.getD_none, Option.bind_some, Option.map_none,
          ite_eq_right_iff]
        rintro rfl
        exact there.symm
      | some flag => rfl
  | setLimit m limit =>
    cases h with
    | holder n => rfl
    | context n =>
      simp only [apply, setLimit, given?, flag?, List.getElem?_modify]
      cases b.contexts[n]? with
      | none => rfl
      | some c => by_cases same : m = n <;> simp [same]

theorem flag?_apply_of_given (gives : b.given? s = some (h, flag)) :
    (b.apply s).flag? h = some flag := by
  simp [flag?_apply, gives]

theorem flag?_apply_of_not_given (keeps : ∀ flag, b.given? s ≠ some (h, flag)) :
    (b.apply s).flag? h = b.flag? h := by
  rw [flag?_apply]
  cases gives : b.given? s with
  | none => rfl
  | some gift => exact if_neg fun same => keeps gift.2 (by rw [gives, same])

/-- A handle that holds a flag is given another one only by being tied. -/
theorem ties_iff (held : b.flag? h = some flag) :
    s.Ties b h ↔ ∃ flag, b.given? s = some (h, flag) := by
  constructor
  · rintro ⟨context, holder, rfl, rfl, there⟩
    have found : b.flag? (.holder holder) = some b.holders[holder] := List.getElem?_eq_getElem there
    exact ⟨b.holders[holder], by simp [given?, held, found]⟩
  · -- new handles hold nothing before, and no other step gives anything to a handle that is there
    rintro ⟨flag, gives⟩
    cases s with
    | newFlag => cases gives; simp [flag?] at held
    | newContext => cases gives; simp [flag?] at held
    | copyFlag source =>
      obtain ⟨_, _, given⟩ := Option.map_eq_some_iff.mp gives
      cases given
      simp [flag?] at held
    | copyContext m =>
      obtain ⟨_, _, given⟩ := Option.map_eq_some_iff.mp gives
      cases given
      simp [flag?] at held
    | tie m holder =>
      obtain ⟨_, _, gives⟩ := Option.bind_eq_some_iff.mp gives
      obtain ⟨_, found, given⟩ := Option.map_eq_some_iff.mp gives
      cases given
      exact ⟨m, holder, rfl, rfl, (List.getElem?_eq_some_iff.mp found).1⟩
    | cancel source => cases gives
    | setLimit m limit => cases gives

theorem length_raised_apply :
    (b.apply s).raised.length = b.raised.length + if s.makesFlag then 1 else 0 := by
  cases s with
  | newFlag => simp [apply, newFlag, Step.makesFlag]
  | newContext => simp [apply, newContext, Step.makesFlag]
  | copyFlag source =>
    rw [apply_copyFlag]
    cases b.flag? source <;> rfl
  | cancel source =>
    rw [apply_cancel]
    cases b.flag? source <;> simp [raiseFlag, Step.makesFlag]
  | copyContext m =>
    simp only [apply, copyContext, Step.makesFlag]
    split <;> rfl
  | tie m holder =>
    simp only [apply, tie, Step.makesFlag]
    split <;> rfl
  | setLimit m limit => rfl

theorem isRaised_iff : b.isRaised flag = true ↔ b.raised[flag]? = some true := by
  simp only [isRaised, List.getD_eq_getElem?_getD]
  cases b.raised[flag]? <;> simp

theorem isRaised_raiseFlag {target : Nat} :
    (b.raiseFlag target).isRaised flag = true ↔
      b.isRaised flag = true ∨ flag < b.raised.length ∧ target = flag := by
  simp only [isRaised_iff, raiseFlag, List.getElem?_set]
  by_cases same : target = flag
  · subst same
    by_cases there : target < b.raised.length <;> simp [there]
  · simp [same]

theorem isRaised_append {b' : Board} (grown : b'.raised = b.raised ++ [false]) :
    b'.isRaised flag = true ↔ b.isRaised flag = true := by
  rw [isRaised_iff, isRaised_iff, grown, getElem?_concat_eq]
  split
  · next last => simp [last]
  · rfl

/-- Nothing but cancelling through a handle raises a flag, and nothing lowers it. -/
theorem isRaised_apply :
    (b.apply s).isRaised flag = true ↔
      b.isRaised flag = true ∨
        flag < b.raised.length ∧ ∃ h, s = .cancel h ∧ b.flag? h = some flag := by
  cases s with
  | newFlag =>
    rw [isRaised_append (show (b.apply .newFlag).raised = b.raised ++ [false] from rfl)]
    simp
  | newContext =>
    rw [isRaised_append (show (b.apply .newContext).raised = b.raised ++ [false] from rfl)]
    simp
  | copyFlag source =>
    rw [apply_copyFlag]
    cases b.flag? source <;> simp [isRaised]
  | cancel source =>
    rw [apply_cancel]
    cases held : b.flag? source with
    | none => simp [held]
    | some f => simp [held, isRaised_raiseFlag]
  | copyContext m =>
    simp only [apply, copyContext]
    split <;> simp [isRaised]
  | tie m holder =>
    simp only [apply, tie]
    split <;> simp [isRaised]
  | setLimit m limit => simp [apply, setLimit, isRaised]

end Stepping

section Histories

variable {history past : List Step} {s : Step} {h : Handle} {flag made : Nat}

/-- For every flag of a board, the number of steps that were taken before it was made. -/
def births : List Step → List Nat
  | [] => []
  | s :: past => births past ++ if s.makesFlag then [past.length] else []

theorem length_births : (births history).length = (after history).raised.length := by
  induction history with
  | nil => rfl
  | cons s past ih =>
    rw [births, after, length_raised_apply, List.length_append, ih]
    split <;> rfl

theorem lt_of_mem_births (mem : made ∈ births history) : made < history.length := by
  induction history with
  | nil => exact absurd mem List.not_mem_nil
  | cons s past ih =>
    rw [List.length_cons]
    rcases List.mem_append.mp mem with old | new
    · exact Nat.lt_succ_of_lt (ih old)
    · split at new
      · rw [List.mem_singleton.mp new]
        omega
      · exact absurd new List.not_mem_nil

theorem nodup_births : (births history).Nodup := by
  induction history with
  | nil => exact List.nodup_nil
  | cons s past ih =>
    refine List.nodup_append.mpr ⟨ih, by split <;> simp, ?_⟩
    -- All earlier flags were made after fewer steps.
    rintro made old _ new rfl
    split at new
    · have earlier := lt_of_mem_births old
      have now := List.mem_singleton.mp new
      omega
    · exact absurd new List.not_mem_nil

theorem births_keep (born : (births past)[flag]? = some made) :
    (births (s :: past))[flag]? = some made := by
  rw [births, List.getElem?_append_left (List.getElem?_eq_some_iff.mp born).1]
  exact born

theorem births_last (makes : s.makesFlag = true) :
    (births (s :: past))[(after past).raised.length]? = some past.length := by
  rw [births, if_pos makes, ← length_births]
  exact List.getElem?_concat_length

/-- What a step gives a handle is a flag that the step makes, or the flag of another handle. -/
theorem given?_eq_some {g : Handle} (gives : (after past).given? s = some (g, flag)) :
    (s.makesFlag = true ∧ flag = (after past).raised.length ∧ Holds (s :: past) g past.length) ∨
      ∃ source, (after past).flag? source = some flag ∧
        ∀ made, Holds past source made → Holds (s :: past) g made := by
  cases s with
  | newFlag => cases gives; exact .inl ⟨rfl, rfl, .newFlag⟩
  | newContext => cases gives; exact .inl ⟨rfl, rfl, .newContext⟩
  | copyFlag source =>
    obtain ⟨_, held, given⟩ := Option.map_eq_some_iff.mp gives
    cases given
    exact .inr ⟨source, held, fun _ => .copyFlag⟩
  | copyContext m =>
    obtain ⟨_, held, given⟩ := Option.map_eq_some_iff.mp gives
    cases given
    exact .inr ⟨.context m, held, fun _ => .copyContext⟩
  | tie m holder =>
    obtain ⟨_, there, gives⟩ := Option.bind_eq_some_iff.mp gives
    obtain ⟨_, held, given⟩ := Option.map_eq_some_iff.mp gives
    cases given
    obtain ⟨_, found, -⟩ := Option.map_eq_some_iff.mp there
    exact .inr ⟨.holder holder, held, fun _ => .tie (List.getElem?_eq_some_iff.mp found).1⟩
  | cancel source => cases gives
  | setLimit m limit => cases gives

/-- Whatever flag a handle holds on the board, the history tells when that flag was made. -/
theorem exists_holds (held : (after history).flag? h = some flag) :
    ∃ made, (births history)[flag]? = some made ∧ Holds history h made := by
  -- The last step gave the handle its flag, or the handle held it before.
  induction history generalizing h flag with
  | nil => cases h <;> simp [after, empty, flag?] at held
  | cons s past ih =>
    rw [after] at held
    by_cases gift : ∃ flag, (after past).given? s = some (h, flag)
    · obtain ⟨given, gives⟩ := gift
      rw [flag?_apply_of_given gives] at held
      cases held
      rcases given?_eq_some gives with ⟨makes, last, holds⟩ | ⟨source, before, holds⟩
      · exact ⟨past.length, by rw [last]; exact births_last makes, holds⟩
      · obtain ⟨made, born, held⟩ := ih before
        exact ⟨made, births_keep born, holds made held⟩
    · rw [flag?_apply_of_not_given (not_exists.mp gift)] at held
      obtain ⟨made, born, holds⟩ := ih held
      exact ⟨made, births_keep born, .keep holds fun ties => gift ((ties_iff held).mp ties)⟩

/-- The flag that the history tells of is the one that the handle holds on the board. -/
theorem Holds.exists_flag? (holds : Holds history h made) :
    ∃ flag, (after history).flag? h = some flag ∧ (births history)[flag]? = some made := by
  induction holds with
  | newFlag => exact ⟨_, flag?_apply_of_given rfl, births_last rfl⟩
  | newContext => exact ⟨_, flag?_apply_of_given rfl, births_last rfl⟩
  | copyFlag _ ih =>
    obtain ⟨flag, held, born⟩ := ih
    exact ⟨flag, flag?_apply_of_given (by simp [given?, held]), births_keep born⟩
  | copyContext _ ih =>
    obtain ⟨flag, held, born⟩ := ih
    exact ⟨flag, flag?_apply_of_given (by simp [given?, held]), births_keep born⟩
  | @tie past context holder _ there _ ih =>
    obtain ⟨flag, held, born⟩ := ih
    have found : (after past).flag? (.context context) = some ((after past).contexts[context]).flag := by
      simp [flag?, there]
    exact ⟨flag, flag?_apply_of_given (by simp [given?, held, found]), births_keep born⟩
  | keep _ untied ih =>
    obtain ⟨flag, held, born⟩ := ih
    have keeps := not_exists.mp fun gift => untied ((ties_iff held).mpr gift)
    exact ⟨flag, (flag?_apply_of_not_given keeps).trans held, births_keep born⟩

theorem Holds.unique {other : Nat} (holds : Holds history h made) (too : Holds history h other) :
    made = other := by
  obtain ⟨flag, held, born⟩ := holds.exists_flag?
  obtain ⟨_, again, bornToo⟩ := too.exists_flag?
  -- the board has one flag for a handle, and this flag was made once
  cases held.symm.trans again
  exact Option.some.inj (born.symm.trans bornToo)

theorem cancelled_cons {made : Nat} :
    Cancelled (s :: past) made ↔ Cancelled past made ∨ ∃ h, s = .cancel h ∧ Holds past h made := by
  constructor
  · rintro ⟨later, h, before, split, holds⟩
    cases later with
    | nil => cases split; exact .inr ⟨h, rfl, holds⟩
    | cons _ later => cases split; exact .inl ⟨later, h, before, rfl, holds⟩
  · rintro (⟨later, h, before, rfl, holds⟩ | ⟨h, rfl, holds⟩)
    · exact ⟨s :: later, h, before, rfl, holds⟩
    · exact ⟨[], h, past, rfl, holds⟩

theorem Cancelled.mem_births (cancelled : Cancelled history made) : made ∈ births history := by
  induction history with
  | nil => obtain ⟨later, _, _, split, -⟩ := cancelled; simp at split
  | cons s past ih =>
    refine List.mem_append_left _ ?_
    rcases cancelled_cons.mp cancelled with before | ⟨h, -, holds⟩
    · exact ih before
    · obtain ⟨flag, -, born⟩ := holds.exists_flag?
      exact List.mem_of_getElem? born

/-- A flag is up exactly if a handle of it was used to cancel. -/
theorem isRaised_after_iff :
    (after history).isRaised flag = true ↔
      ∃ made, (births history)[flag]? = some made ∧ Cancelled history made := by
  induction history generalizing flag with
  | nil => simp [after, empty, isRaised, births]
  | cons s past ih =>
    rw [after, isRaised_apply]
    constructor
    · rintro (before | ⟨-, h, rfl, held⟩)
      · obtain ⟨made, born, cancelled⟩ := ih.mp before
        exact ⟨made, births_keep born, cancelled_cons.mpr (.inl cancelled)⟩
      · obtain ⟨made, born, holds⟩ := exists_holds held
        exact ⟨made, births_keep born, cancelled_cons.mpr (.inr ⟨h, rfl, holds⟩)⟩
    · -- the flag that was made at this step, if one was, cannot have been cancelled before
      rintro ⟨made, born, cancelled⟩
      have same {f : Nat} (old : (births past)[f]? = some made) : f = flag := by
        have kept := births_keep (s := s) old
        have there := (List.getElem?_eq_some_iff.mp kept).1
        exact (List.getElem?_inj there nodup_births).mp (kept.trans born.symm)
      rcases cancelled_cons.mp cancelled with before | ⟨h, rfl, holds⟩
      · obtain ⟨f, old⟩ := List.getElem?_of_mem before.mem_births
        cases same old
        exact .inl (ih.mpr ⟨made, old, before⟩)
      · obtain ⟨f, held, old⟩ := holds.exists_flag?
        cases same old
        have there := (List.getElem?_eq_some_iff.mp old).1
        exact .inr ⟨length_births ▸ there, h, rfl, held⟩

/-- A context sees cancellation exactly if a flag that it holds was cancelled through some handle. -/
theorem isCancelled_after_iff {context : Nat} :
    (after history).isCancelled context = true ↔
      ∃ flag, Holds history (.context context) flag ∧ Cancelled history flag := by
  rw [isCancelled_iff]
  constructor
  · rintro ⟨flag, held, up⟩
    obtain ⟨made, born, cancelled⟩ := isRaised_after_iff.mp up
    obtain ⟨_, again, holds⟩ := exists_holds held
    cases born.symm.trans again
    exact ⟨made, holds, cancelled⟩
  · rintro ⟨made, holds, cancelled⟩
    obtain ⟨flag, held, born⟩ := holds.exists_flag?
    exact ⟨flag, held, isRaised_after_iff.mpr ⟨made, born, cancelled⟩⟩

theorem exists_held {context : Nat} (there : context < (after history).contexts.length) :
    ∃ flag, (∀ other, Holds history (.context context) other ↔ other = flag) ∧
      ((after history).isCancelled context = true ↔ Cancelled history flag) := by
  have held : (after history).flag? (.context context) =
      some ((after history).contexts[context]).flag := by simp [flag?, there]
  obtain ⟨made, -, holds⟩ := exists_holds held
  have only other : Holds history (.context context) other ↔ other = made :=
    ⟨fun too => too.unique holds, fun same => same ▸ holds⟩
  refine ⟨made, only, ?_⟩
  rw [isCancelled_after_iff]
  constructor
  · rintro ⟨other, holdsToo, cancelled⟩
    exact (only other).mp holdsToo ▸ cancelled
  · exact fun cancelled => ⟨made, holds, cancelled⟩

theorem Holds.append {context : Nat} {later : List Step}
    (untied : ∀ holder, .tie context holder ∉ later) (holds : Holds history (.context context) made) :
    Holds (later ++ history) (.context context) made := by
  -- A context lets go of its flag only when it is tied.
  induction later with
  | nil => exact holds
  | cons s later ih =>
    refine .keep (ih fun holder mem => untied holder (.tail _ mem)) ?_
    rintro ⟨_, holder, rfl, same, -⟩
    cases same
    exact untied holder (.head _)

theorem Cancelled.append {later : List Step} :
    Cancelled history made → Cancelled (later ++ history) made := by
  rintro ⟨between, h, past, rfl, holds⟩
  exact ⟨later ++ between, h, past, (List.append_assoc ..).symm, holds⟩

theorem Holds.lt_length {context : Nat} (holds : Holds history (.context context) made) :
    context < (after history).contexts.length := by
  obtain ⟨flag, held, -⟩ := holds.exists_flag?
  obtain ⟨_, found, -⟩ := Option.map_eq_some_iff.mp held
  exact (List.getElem?_eq_some_iff.mp found).1

end Histories

section Limits

variable {b : Board} {s : Step} {history past : List Step} {context nanos : Nat}

/-- The time limit that a board has for a context. -/
def limit? (b : Board) (context : Nat) : Option Duration := (b.contexts[context]?).map (·.limit)

theorem limit?_addContext {raised : List Bool} {c : Context} :
    (mk raised b.holders (b.contexts ++ [c])).limit? context =
      if context = b.contexts.length then some c.limit else b.limit? context := by
  simp only [limit?, getElem?_concat_eq]
  split <;> rfl

theorem limit?_apply_newContext :
    (b.apply .newContext).limit? context =
      if context = b.contexts.length then some ⟨60000000000⟩ else b.limit? context :=
  limit?_addContext

theorem limit?_apply_copyContext {source : Nat} :
    (b.apply (.copyContext source)).limit? context =
      if context = b.contexts.length then b.limit? source else b.limit? context := by
  simp only [apply, copyContext]
  cases found : b.contexts[source]? with
  | none => split <;> simp_all [limit?]
  | some c => simpa [limit?, found] using @limit?_addContext b context b.raised c

theorem limit?_apply_setLimit {target : Nat} {limit : Duration} :
    (b.apply (.setLimit target limit)).limit? context =
      if target = context then (b.limit? context).map fun _ => limit else b.limit? context := by
  simp only [apply, setLimit, limit?, List.getElem?_modify]
  cases b.contexts[context]? with
  | none => simp
  | some c => split <;> rfl

/-- Nothing that is done to flags makes a difference to limits. -/
theorem limit?_apply_of_flags {s : Step}
    (flags : s = .newFlag ∨ (∃ h, s = .copyFlag h) ∨ (∃ h, s = .cancel h) ∨ ∃ m h, s = .tie m h) :
    (b.apply s).limit? context = b.limit? context := by
  rcases flags with rfl | ⟨h, rfl⟩ | ⟨h, rfl⟩ | ⟨m, holder, rfl⟩
  · rfl
  · rw [apply_copyFlag]
    cases b.flag? h <;> rfl
  · rw [apply_cancel]
    cases b.flag? h <;> rfl
  · simp only [apply, tie]
    cases b.holders[holder]? with
    | none => rfl
    | some flag =>
      simp only [limit?, List.getElem?_modify]
      cases b.contexts[context]? with
      | none => rfl
      | some c => by_cases same : m = context <;> simp [same]

/-- A context that is there keeps its limit until another one is set for it. -/
theorem limit?_apply_of_not_set {limit : Duration} (found : b.limit? context = some limit)
    (unset : ∀ limit, s ≠ .setLimit context limit) : (b.apply s).limit? context = some limit := by
  have old : context ≠ b.contexts.length := by
    rintro rfl
    simp [limit?] at found
  cases s with
  | newContext => rw [limit?_apply_newContext, if_neg old, found]
  | copyContext source => rw [limit?_apply_copyContext, if_neg old, found]
  | setLimit target other =>
    have apart : target ≠ context := fun same => unset other (same ▸ rfl)
    rw [limit?_apply_setLimit, if_neg apart, found]
  | newFlag | copyFlag | cancel | tie => rw [limit?_apply_of_flags (by simp), found]

theorem Limited.limit?_eq (limited : Limited history context nanos) :
    (after history).limit? context = some ⟨nanos⟩ := by
  induction limited with
  | newContext => rw [after, limit?_apply_newContext, if_pos rfl]
  | copyContext _ ih => rw [after, limit?_apply_copyContext, if_pos rfl, ih]
  | setLimit _ ih => rw [after, limit?_apply_setLimit, if_pos rfl, ih, Option.map_some]
  | keep _ unset ih => exact limit?_apply_of_not_set ih unset

/-- The limit that the history tells of is the one that the board has. -/
theorem limited_iff : Limited history context nanos ↔ (after history).limit? context = some ⟨nanos⟩ := by
  refine ⟨Limited.limit?_eq, fun found => ?_⟩
  -- The last step made the context or set its limit, or the limit stood before.
  induction history generalizing context nanos with
  | nil => simp [after, empty, limit?] at found
  | cons s past ih =>
    rw [after] at found
    cases s with
    | newContext =>
      rw [limit?_apply_newContext] at found
      split at found
      · next last =>
        cases found
        exact last ▸ .newContext
      · exact .keep (ih found) nofun
    | copyContext source =>
      rw [limit?_apply_copyContext] at found
      split at found
      · next last => exact last ▸ .copyContext (ih found)
      · exact .keep (ih found) nofun
    | setLimit target limit =>
      rw [limit?_apply_setLimit] at found
      split at found
      · next same =>
        subst same
        obtain ⟨old, before, rfl⟩ := Option.map_eq_some_iff.mp found
        exact .setLimit (ih before)
      · next apart =>
        refine .keep (ih found) ?_
        rintro limit same
        cases same
        exact apart rfl
    | newFlag | copyFlag | cancel | tie =>
      exact .keep (ih ((limit?_apply_of_flags (by simp)).symm.trans found)) nofun

end Limits

theorem attempt_of_some {α : Type} {b : Board} {context : Nat} {c : Context}
    {call : Board → Except LookupError α × Duration × Board} (there : b.contexts[context]? = some c) :
    b.attempt context call =
      if b.isCancelled context then (.error .cancelled, false, b)
      else
        (settle c.limit ((call b).2.2.isCancelled context) (call b).2.1 (call b).1, true,
          (call b).2.2) := by
  unfold attempt
  rw [there]

/-- **Contexts see what is done to the flag that they hold.** Operations, nested calls included, leave the
board as the steps do that they take. After any history a context holds one flag and has one time limit,
as the history tells, and sees cancellation exactly if some earlier step cancelled through a handle of this
flag; it goes on seeing it unless it is tied again. A call under a context is not made if the context sees
cancellation; otherwise it is made once, and what it results in counts unless the context sees cancellation
by then or the call took longer than the limit. -/
theorem cancellation_follows_flags :
    (∀ history operations,
      (after history).performAll operations =
        after (((after history).stepsAll operations).reverse ++ history)) ∧
    (∀ history context flag, Holds history (.context context) flag →
      context < (after history).contexts.length) ∧
    (∀ history context, context < (after history).contexts.length →
      ∃ flag nanos, (∀ other, Holds history (.context context) other ↔ other = flag) ∧
        (∀ other, Limited history context other ↔ other = nanos) ∧
        ((after history).isCancelled context = true ↔ Cancelled history flag)) ∧
    (∀ history later context, (∀ holder, Step.tie context holder ∉ later) →
      (after history).isCancelled context = true →
      (after (later ++ history)).isCancelled context = true) ∧
    (∀ (α : Type) history context nanos (call : Board → Except LookupError α × Duration × Board)
      result elapsed course, Limited history context nanos →
      call (after history) = (result, elapsed, (after history).performAll course) →
      let past := ((after history).stepsAll course).reverse ++ history
      (after history).perform (.run context course) = ((after history).attempt context call).2.2 ∧
      (after history).attempt context call =
        if (after history).isCancelled context then (.error .cancelled, false, after history)
        else
          (if (after past).isCancelled context then .error .cancelled
            else if nanos < elapsed.nanos then .error (.timeout ⟨nanos⟩)
            else result, true, after past)) := by
  have performed history operations :
      (after history).performAll operations =
        after (((after history).stepsAll operations).reverse ++ history) :=
    (performAll_eq_foldl _ operations).trans (foldl_apply_after history _)
  refine ⟨performed, fun _ _ _ => Holds.lt_length, ?_, ?_, ?_⟩
  · intro history context there
    obtain ⟨flag, only, cancelled⟩ := exists_held there
    have found : (after history).limit? context = some ((after history).contexts[context]).limit := by
      simp [limit?, there]
    refine ⟨flag, ((after history).contexts[context]).limit.nanos, only, fun other => ?_, cancelled⟩
    rw [limited_iff, found, Option.some_inj]
    exact ⟨fun same => (congrArg Duration.nanos same).symm, fun same => same ▸ rfl⟩
  · intro history later context untied cancelled
    obtain ⟨flag, holds, through⟩ := isCancelled_after_iff.mp cancelled
    exact isCancelled_after_iff.mpr ⟨flag, holds.append untied, through.append⟩
  · intro α history context nanos call result elapsed course limited does
    obtain ⟨c, there, limit⟩ := Option.map_eq_some_iff.mp limited.limit?_eq
    have outcome := @attempt_of_some α (after history) context c call there
    refine ⟨?_, ?_⟩
    · rw [outcome, perform, attempt_of_some there, does]
      split <;> rfl
    · rw [outcome, does, performed, limit]
      rfl

/-- A flag with two holders, and a context that is tied to the first. -/
def tiedOnce : List Step := [.tie 0 0, .copyFlag (.holder 0), .newContext, .newFlag]

theorem holds_tiedOnce : Holds (.cancel (.holder 1) :: tiedOnce) (.context 0) 0 := by
  -- The first step made the flag; the holder of it kept it until the context was tied to it.
  have made : Holds [.newFlag] (.holder 0) 0 := .newFlag
  have kept : Holds [.copyFlag (.holder 0), .newContext, .newFlag] (.holder 0) 0 := by
    refine .keep (.keep made ?_) ?_ <;> simp [Step.Ties]
  have tied : Holds tiedOnce (.context 0) 0 := .tie (by decide) kept
  exact .keep tied (by simp [Step.Ties])

/-- A context for which a limit is set after it was copied. -/
def limitedOnce : List Step := [.setLimit 0 ⟨5⟩, .copyContext 0, .newContext]

theorem limited_limitedOnce : Limited limitedOnce 0 5 ∧ Limited limitedOnce 1 60000000000 := by
  have made : Limited [.newContext] 0 60000000000 := .newContext
  have copied : Limited [.copyContext 0, .newContext] 1 60000000000 := .copyContext made
  exact ⟨.setLimit (.keep made (by simp)), .keep copied (by simp)⟩

/-- The other holder cancels in the course of a call: the call's result is lost, as the flag of the context
was cancelled, and the context sees cancellation after that. A call that takes six nanoseconds is too long
for a context with a limit of five, and not for the copy of it. -/
theorem cancellation_follows_flags_tiedOnce :
    ((after tiedOnce).attempt 0 fun b =>
      (.ok 7, ⟨0⟩, b.performAll [.step (.cancel (.holder 1))])) =
        (.error .cancelled, true, after (.cancel (.holder 1) :: tiedOnce)) ∧
    Cancelled (.cancel (.holder 1) :: tiedOnce) 0 ∧
    (after (.newContext :: .cancel (.holder 1) :: tiedOnce)).isCancelled 0 = true ∧
    ((after limitedOnce).attempt 0 fun b => (.ok 7, ⟨6⟩, b)) =
      (.error (.timeout ⟨5⟩), true, after limitedOnce) ∧
    ((after limitedOnce).attempt 1 fun b => (.ok 7, ⟨6⟩, b)) = (.ok 7, true, after limitedOnce) := by
  obtain ⟨-, -, sees, keeps, calls⟩ := cancellation_follows_flags
  have up : (after (.cancel (.holder 1) :: tiedOnce)).isCancelled 0 = true := by decide
  have usual : Limited tiedOnce 0 60000000000 := by
    refine .keep (.keep .newContext ?_) ?_ <;> simp
  obtain ⟨short, long⟩ := limited_limitedOnce
  refine ⟨?_, ?_, ?_, ?_, ?_⟩
  · exact (calls Nat tiedOnce 0 _ _ (.ok 7) ⟨0⟩ [.step (.cancel (.holder 1))] usual rfl).2.trans rfl
  · obtain ⟨flag, _, only, -, cancelled⟩ := sees (.cancel (.holder 1) :: tiedOnce) 0 (by decide)
    exact (only 0).mp holds_tiedOnce ▸ cancelled.mp up
  · exact keeps (.cancel (.holder 1) :: tiedOnce) [.newContext] 0 (by simp) up
  · exact (calls Nat limitedOnce 0 _ _ (.ok 7) ⟨6⟩ [] short rfl).2.trans rfl
  · exact (calls Nat limitedOnce 1 _ _ (.ok 7) ⟨6⟩ [] long rfl).2.trans rfl

end Board

end InstallCheck.Lookup
