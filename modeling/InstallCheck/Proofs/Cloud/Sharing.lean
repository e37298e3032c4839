import InstallCheck.Proofs.Cloud.Changes

/-!
Handles over any history. A clone joins the class of the handle that it is cloned from, and every other new
handle begins a class of its own. The account of a handle is the one with which its class began, changed by
what was done through handles of the class, and by nothing else. Of the failures that were set, those of
other operations make no difference to a lookup, and of its own ones the last.
-/
namespace InstallCheck.Cloud

namespace Change

variable {changes : List Change} {operation : String}

end Change

namespace Account

variable {a b : Account} {changes : List Change} {operation : String} {q : Query}

/-- An account apart from its failures. -/
def Matches (a b : Account) : Prop := a.state = b.state ∧ a.latency = b.latency

theorem Matches.apply (same : a.Matches b) (change : Change) :
    (a.apply change).Matches (b.apply change) := by
  obtain ⟨tables, delay⟩ := same
  cases change with
  | fault | latency => simp [Matches, Account.apply, tables, delay]
  | _ => simp [Matches, Account.apply, withState, tables, delay]

/-- A lookup depends on the tables, on the delay and on the failure of its own operation. -/
theorem lookup_congr (same : a.Matches b)
    (failing : a.faults.get? q.operation = b.faults.get? q.operation) (clock : Clock)
    (raised : Duration → Bool) (limit : Duration) :
    a.lookup clock raised limit q = b.lookup clock raised limit q := by
  have alike : a.answer q = b.answer q := by rw [answer, answer, failing, same.1]
  simp only [lookup, alike, same.2]

end Account

namespace Handles

/-- What can be done with handles: an action, or taking a copy of the tables of an account. -/
inductive Deed
  | action (a : Action)
  | snapshot (handle : Nat)

/-- The handles after a history of deeds, of which the last one comes first. -/
def afterHistory : List Deed → Handles
  | [] => empty
  | .action a :: past => ((afterHistory past).perform a).2
  | .snapshot _ :: past => afterHistory past

/-- The account that a step makes, if it makes one. -/
def made? (hs : Handles) : Step → Option Account
  | .fresh => some .empty
  | .ofSnapshot contents => some (.ofSnapshot contents)
  | .rebuild handle => (hs.account? handle).map fun a => .ofSnapshot a.state
  | .merge handle other =>
    (hs.account? handle).bind fun a =>
      (hs.account? other).map fun b => .ofSnapshot (a.state.merge b.state)
  | .clone _ | .change .. => none

/-- The account that a deed makes, if it makes one. -/
def Deed.made? (d : Deed) (hs : Handles) : Option Account :=
  match d with
  | .action (.step s) => hs.made? s
  | .action (.lookup ..) | .snapshot _ => none

/-- The accounts with which the classes of handles began, in the order in which they began. -/
def origins : List Deed → List Account
  | [] => []
  | d :: past => origins past ++ (d.made? (afterHistory past)).toList

/-- The class that a deed puts a new handle into: that of the handle that is cloned, or a new one. -/
def Deed.joined? (d : Deed) (hs : Handles) (classes : List Nat) (begun : Nat) : Option Nat :=
  match d with
  | .action (.step (.clone source)) => classes[source]?
  | d => (d.made? hs).map fun _ => begun

/-- The class of each handle. Classes are numbered in the order in which they begin. -/
def classes : List Deed → List Nat
  | [] => []
  | d :: past =>
    classes past ++ (d.joined? (afterHistory past) (classes past) (origins past).length).toList

/-- The change that a deed makes to a class, if it goes through one of its handles. -/
def Deed.changes (d : Deed) (classes : List Nat) (number : Nat) : List Change :=
  match d with
  | .action (.step (.change handle change)) =>
    if classes[handle]? = some number then [change] else []
  | _ => []

/-- The changes that were made through handles of a class, oldest first. -/
def changes : List Deed → Nat → List Change
  | [], _ => []
  | d :: past, number => changes past number ++ d.changes (classes past) number

section Classes

variable {history past : List Deed} {d : Deed} {hs : Handles} {number : Nat}

/-- A new handle is in a class that is there, or in the one that begins with it. -/
theorem Deed.joined?_eq_some {numbers : List Nat} {begun : Nat}
    (joins : d.joined? hs numbers begun = some number) :
    number ∈ numbers ∨ number = begun ∧ (d.made? hs).isSome = true := by
  have makes (begins : (d.made? hs).map (fun _ => begun) = some number) :
      number = begun ∧ (d.made? hs).isSome = true := by
    obtain ⟨a, made, rfl⟩ := Option.map_eq_some_iff.mp begins
    exact ⟨rfl, by rw [made, Option.isSome_some]⟩
  match d with
  | .snapshot _ | .action (.lookup ..) => exact .inr (makes joins)
  | .action (.step .fresh) | .action (.step (.ofSnapshot _)) | .action (.step (.rebuild _))
  | .action (.step (.merge ..)) | .action (.step (.change ..)) => exact .inr (makes joins)
  | .action (.step (.clone source)) => exact .inl (List.mem_of_getElem? joins)

theorem lt_of_mem_classes (member : number ∈ classes history) :
    number < (origins history).length := by
  induction history with
  | nil => exact absurd member List.not_mem_nil
  | cons d past ih =>
    rw [origins, List.length_append]
    rcases List.mem_append.mp member with old | new
    · exact Nat.lt_add_right _ (ih old)
    · rcases Deed.joined?_eq_some (Option.mem_toList.mp new) with old | ⟨rfl, makes⟩
      · exact Nat.lt_add_right _ (ih old)
      · obtain ⟨a, made⟩ := Option.isSome_iff_exists.mp makes
        simp [made]

/-- Nothing has been done yet to a class that has not begun. -/
theorem changes_eq_nil (late : (origins history).length ≤ number) : changes history number = [] := by
  induction history with
  | nil => rfl
  | cons d past ih =>
    rw [origins, List.length_append] at late
    have before : (origins past).length ≤ number := Nat.le_of_add_right_le late
    rw [changes, ih before, List.nil_append]
    unfold Deed.changes
    split
    -- The change goes through a handle, whose class has begun.
    · exact if_neg fun belongs =>
        Nat.not_lt.mpr before (lt_of_mem_classes (List.mem_of_getElem? belongs))
    · rfl

end Classes

section Following

variable {history past : List Deed} {d : Deed} {hs : Handles} {handle number : Nat}

/-- The handles after a history are as the history tells: of their classes, and with the accounts that the
classes began with and the changes made to them. -/
structure Follows (history : List Deed) (hs : Handles) : Prop where
  held : hs.held = classes history
  accounts : hs.accounts =
    (origins history).mapIdx fun number o => (changes history number).foldl Account.apply o

theorem apply_rebuild (hs : Handles) (handle : Nat) :
    hs.apply (.rebuild handle) = ((hs.made? (.rebuild handle)).map hs.add).getD hs := by
  simp only [apply, made?]
  cases hs.account? handle <;> rfl

theorem apply_merge (hs : Handles) (handle other : Nat) :
    hs.apply (.merge handle other) = ((hs.made? (.merge handle other)).map hs.add).getD hs := by
  simp only [apply, made?]
  cases hs.account? handle <;> cases hs.account? other <;> rfl

/-- A deed that can make an account, and does nothing else. -/
theorem Follows.made (follows : Follows past hs)
    (joins : d.joined? (afterHistory past) (classes past) (origins past).length =
      (d.made? (afterHistory past)).map fun _ => (origins past).length)
    (idle : ∀ number, d.changes (classes past) number = []) :
    Follows (d :: past) (((d.made? (afterHistory past)).map hs.add).getD hs) := by
  have same : changes (d :: past) = changes past := by
    funext number
    rw [changes, idle, List.append_nil]
  cases made : d.made? (afterHistory past) with
  | none =>
    constructor
    · simp [classes, joins, made, follows.held]
    · simp [origins, made, same, follows.accounts]
  | some a =>
    have size : hs.accounts.length = (origins past).length := by
      rw [follows.accounts, List.length_mapIdx]
    constructor
    · simp [classes, joins, made, add, follows.held, size]
    · simp [origins, made, same, add, follows.accounts, changes_eq_nil (Nat.le_refl _)]

theorem Follows.clone (follows : Follows past hs) (source : Nat) :
    Follows (.action (.step (.clone source)) :: past) (hs.apply (.clone source)) := by
  have begun : origins (.action (.step (.clone source)) :: past) = origins past := List.append_nil _
  have same : changes (.action (.step (.clone source)) :: past) = changes past := by
    funext number
    exact List.append_nil _
  simp only [apply, follows.held]
  cases found : (classes past)[source]? with
  | none =>
    constructor
    · simp [classes, Deed.joined?, found, follows.held]
    · simp [begun, same, follows.accounts]
  | some number =>
    constructor
    · simp [classes, Deed.joined?, found]
    · simp [begun, same, follows.accounts]

theorem Follows.change (follows : Follows past hs) (handle : Nat) (change : Change) :
    Follows (.action (.step (.change handle change)) :: past) (hs.apply (.change handle change)) := by
  have begun : origins (.action (.step (.change handle change)) :: past) = origins past :=
    List.append_nil _
  have more (number : Nat) : changes (.action (.step (.change handle change)) :: past) number =
      changes past number ++ if (classes past)[handle]? = some number then [change] else [] := rfl
  simp only [apply, follows.held]
  cases found : (classes past)[handle]? with
  | none =>
    constructor
    · exact follows.held.trans (List.append_nil _).symm
    · simp [begun, more, found, follows.accounts]
  | some own =>
    constructor
    · exact (List.append_nil _).symm
    · apply List.ext_getElem?
      intro number
      rw [begun, follows.accounts, List.getElem?_modify, List.getElem?_mapIdx, List.getElem?_mapIdx]
      -- The last change counts for the class of its handle alone.
      by_cases there : own = number
      · cases (origins past)[number]? <;> simp [more, found, there]
      · cases (origins past)[number]? <;> simp [more, found, there]

theorem follows (history : List Deed) : Follows history (afterHistory history) := by
  induction history with
  | nil => exact ⟨rfl, rfl⟩
  | cons d past ih =>
    -- Most deeds make an account or nothing at all; only cloning and changing are apart.
    have made (joins : d.joined? (afterHistory past) (classes past) (origins past).length =
          (d.made? (afterHistory past)).map fun _ => (origins past).length)
        (idle : ∀ number, d.changes (classes past) number = [])
        (effect : afterHistory (d :: past) =
          ((d.made? (afterHistory past)).map (afterHistory past).add).getD (afterHistory past)) :
        Follows (d :: past) (afterHistory (d :: past)) := effect ▸ ih.made joins idle
    match d with
    | .snapshot _ | .action (.lookup ..) | .action (.step .fresh) | .action (.step (.ofSnapshot _)) =>
      exact made rfl (fun _ => rfl) rfl
    | .action (.step (.rebuild handle)) => exact made rfl (fun _ => rfl) (apply_rebuild _ handle)
    | .action (.step (.merge handle other)) =>
      exact made rfl (fun _ => rfl) (apply_merge _ handle other)
    | .action (.step (.clone source)) => exact ih.clone source
    | .action (.step (.change handle change)) => exact ih.change handle change

end Following

section Seen

variable {history : List Deed} {hs : Handles} {handle number : Nat} {a o : Account}

end Seen

end Handles

end InstallCheck.Cloud
