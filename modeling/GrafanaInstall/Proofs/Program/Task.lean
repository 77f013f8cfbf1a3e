import GrafanaInstall.Cluster

/-!
# Runs of tasks

How a task runs in any surroundings, step by step: the first step that halts ends it, unless it
can recover.
-/

namespace GrafanaInstall.Task

variable {I : Interface} {σ : Type} (handler : Handler I σ)

theorem run_lift (program : Program I α) (s : σ) :
    Program.run handler (ExceptT.lift program : Task I α) s =
      (.ok (program.run handler s).1, (program.run handler s).2) :=
  Program.run_bind ..

theorem run_bind (task : Task I α) (f : α → Task I β) (s : σ) :
    Program.run handler (task >>= f : Task I β) s =
      match Program.run handler task s with
      | (.ok a, s) => Program.run handler (f a) s
      | (.error halt, s) => (.error halt, s) := by
  refine (Program.run_bind ..).trans ?_
  rcases Program.run handler task s with ⟨_ | a, s⟩ <;> rfl

theorem run_bind_ok {handler : Handler I σ} {task : Task I α} {a : α} {s middle : σ}
    (h : Program.run handler task s = (.ok a, middle)) (f : α → Task I β) :
    Program.run handler (task >>= f : Task I β) s = Program.run handler (f a) middle := by
  rw [run_bind, h]

theorem of_run_bind {handler : Handler I σ} {task : Task I α} {f : α → Task I β} {b : β}
    {s after : σ} (h : Program.run handler (task >>= f : Task I β) s = (.ok b, after)) :
    ∃ a middle, Program.run handler task s = (.ok a, middle) ∧
      Program.run handler (f a) middle = (.ok b, after) := by
  rw [run_bind] at h
  rcases hrun : Program.run handler task s with ⟨halt | a, middle⟩ <;> rw [hrun] at h
  · cases h
  · exact ⟨a, middle, rfl, h⟩

theorem run_recover (task : Task I α) (handle : Error → Option (Task I α)) (s : σ) :
    Program.run handler (task.recover handle) s =
      match Program.run handler task s with
      | (.ok a, s) => (.ok a, s)
      | (.error (.failed error), s) => Program.run handler ((handle error).getD (fail error)) s
      | (.error .interrupted, s) => (.error .interrupted, s) := by
  refine (Program.run_bind ..).trans ?_
  rcases Program.run handler task s with ⟨(_ | _) | a, s⟩ <;> rfl

end GrafanaInstall.Task
