import InstallCheck.Program.Run

/-!
What comes of tasks that are made of others.
-/
namespace InstallCheck.Program.Task

open Files (Disk)

variable {α β : Type} {t : Trail}

/-- What follows a task is only done if the task did not fail. -/
theorem runOn_bind (task : Task α) (f : α → Task β) :
    (task >>= f).runOn t =
      match task.runOn t with
      | (.ok a, u) => (f a).runOn u
      | (.error e, u) => (.error e, u) := by
  have continued : (task >>= f).runOn t =
      ExceptT.bindCont f (task.runOn t).1 (task.runOn t).2 := rfl
  rw [continued]
  rcases task.runOn t with ⟨_ | _, _⟩ <;> rfl

@[simp] theorem runOn_disk_bind (f : Disk → Task β) :
    (disk >>= f).runOn t = (f t.disk).runOn t := rfl

@[simp] theorem runOn_log_bind (e : Logging.Event) (f : Unit → Task β) :
    (log e >>= f).runOn t = (f ()).runOn { t with events := t.events ++ [e] } := rfl

@[simp] theorem runOn_logAll_bind (es : List Logging.Event) (f : Unit → Task β) :
    (logAll es >>= f).runOn t = (f ()).runOn { t with events := t.events ++ es } := rfl

@[simp] theorem runOn_setDisk_bind (d : Disk) (f : Unit → Task β) :
    (setDisk d >>= f).runOn t = (f ()).runOn { t with disk := d } := rfl

@[simp] theorem runOn_write (pieces : List String) :
    (write pieces).runOn t = (.ok (), { t with written := t.written ++ pieces }) := rfl

@[simp] theorem file_ok (message : String) (a : α) : file message (.ok a) = pure a := rfl

/-- An activity only shows in the log. -/
theorem runOn_during (span : Logging.Span) (task : Task α) :
    (during span task).runOn t =
      ((task.runOn { t with events := [] }).1,
        { (task.runOn { t with events := [] }).2 with
          events := t.events ++ (task.runOn { t with events := [] }).2.events.map (·.within span) }) :=
  rfl

end InstallCheck.Program.Task
