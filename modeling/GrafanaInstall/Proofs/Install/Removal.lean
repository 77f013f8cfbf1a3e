import GrafanaInstall.Proofs.Install.GivesUp

/-!
# Removals that succeed

A removal leaves alone what it does not delete. If it reports success, then nothing is left under
the managed keys, whatever faults it met with.
-/

namespace GrafanaInstall

open Memory

variable {t after : Trial} {ns : String}

theorem RemovalCall.absent {call : Call} (h : RemovalCall ns call) {key : Key} {store : Store}
    (habsent : store.find? key = none) : (answer call store).2.find? key = none := by
  cases h with
  | deployments => exact habsent
  | catalogSource | subscription | operatorGroup | deployment =>
    rw [answer, find?_delete, habsent, ite_self]

namespace Trial

theorem absent_of_delete {k : Kind} {name : String} {b : Bool}
    (h : Program.run serve (Cluster.deleteIfPresent k ns name) t = (.ok b, after)) :
    after.store.find? (keyOf k ns name) = none := by
  have hgone : (delete k ns name t.store).2.find? (keyOf k ns name) = none := by
    rw [find?_delete, if_pos rfl]
  rw [Cluster.deleteIfPresent, Task.run_recover, Task.run_bind] at h
  have hserve : Program.run serve (Cluster.delete k ns name) t =
      serve (.call (.delete k ns name)) t := rfl
  rw [hserve] at h
  rcases hreply : serve (.call (.delete k ns name)) t with ⟨(error | _) | _, middle⟩ <;>
    rw [hreply] at h
  · by_cases hfound : error.isNotFound
    · simp only [hfound, if_true, Option.getD_some] at h
      cases h
      exact (answered_of_reply hreply (by rintro _ ⟨⟩; simp [Halt.isFatal, hfound])) ▸ hgone
    · simp only [hfound] at h
      cases h
  · cases h
  · cases h
    exact (answered_of_reply hreply (by rintro _ ⟨⟩)) ▸ hgone

end Trial

namespace Teardown

theorem absent_of_remove {k : Kind} {name : String}
    (h : Program.run Trial.serve (remove k ns name) t = (.ok (), after)) :
    after.store.find? (keyOf k ns name) = none := by
  obtain ⟨removed, middle, hdelete, hlog⟩ := Task.of_run_bind h
  have hsame : middle = after := by
    split at hlog <;> exact congrArg Prod.snd hlog
  exact hsame ▸ Trial.absent_of_delete hdelete

theorem absent_of_absent (ns : String) {task : Task Cluster α}
    (htask : task.Plain (RemovalCall ns))
    {result : Except Halt α} (hrun : Program.run Trial.serve task t = (result, after)) {key : Key}
    (habsent : t.store.find? key = none) : after.store.find? key = none := by
  have hafter := (Program.GivesUp.asks htask.givesUp).run_trial
    (I := fun store => store.find? key = none) (fun _ hcall _ => hcall.absent) t habsent
  rwa [hrun] at hafter

theorem absent_of_run {progress : Progress}
    (h : Program.run Trial.serve (run ns) t = (.ok progress, after)) :
    ∀ key ∈ managedKeys ns, after.store.find? key = none := by
  obtain ⟨_, first, hcatalog, h⟩ := Task.of_run_bind h
  obtain ⟨_, second, hsubscription, h⟩ := Task.of_run_bind h
  obtain ⟨_, third, hgroup, hrest⟩ := Task.of_run_bind h
  have hsecond {key : Key} : first.store.find? key = none → second.store.find? key = none :=
    absent_of_absent ns (remove_plain .subscription) hsubscription
  have hthird {key : Key} : second.store.find? key = none → third.store.find? key = none :=
    absent_of_absent ns (remove_plain .operatorGroup) hgroup
  have hlast {key : Key} : third.store.find? key = none → after.store.find? key = none := by
    refine absent_of_absent ns ?_ hrest
    exact .bind (.list .deployments) fun _ =>
      .bind (.forM _ fun _ _ => remove_plain .deployment) fun _ =>
      .bind (.log ..) fun _ => .pure _
  simp only [managedKeys, List.forall_mem_cons, List.not_mem_nil, false_imp_iff, implies_true,
    and_true]
  exact ⟨hlast (hthird (hsecond (absent_of_remove hcatalog))),
    hlast (hthird (absent_of_remove hsubscription)), hlast (absent_of_remove hgroup)⟩

end Teardown

theorem Trial.run_of_attempt {stage : Stage (Program Cluster)} {config : InstallConfig}
    {tenant : Tenant}
    (h : Program.run serve (stage.attempt config tenant) t = (.success, after)) :
    Program.run serve (stage.run config tenant) t = (.ok .success, after) := by
  obtain ⟨store, plan, cancelled⟩ := t
  cases cancelled with
  | true => cases h
  | false =>
    replace h := (Program.run_bind serve (stage.run config tenant) _ _).symm.trans h
    rcases hrun : Program.run serve (stage.run config tenant) ⟨store, plan, false⟩ with
      ⟨(error | _) | (_ | _), middle⟩ <;> rw [hrun] at h <;> cases h
    rfl

theorem absent_of_removal {config : InstallConfig} {tenant : Tenant} {report : Report}
    (h : (Installer.removal config tenant).run Trial.serve t = (report, after))
    (hsuccess : report.outcome = .success) :
    ∀ key ∈ managedKeys tenant.ns, after.store.find? key = none := by
  replace h :=
    (Program.run_bind Trial.serve (Teardown.stage.attempt config tenant) _ _).symm.trans h
  rcases hrun : Program.run Trial.serve (Teardown.stage.attempt config tenant) t with
    ⟨_ | _ | error, middle⟩ <;> rw [hrun] at h <;> cases h
  · exact Teardown.absent_of_run (Trial.run_of_attempt hrun)
  · cases hsuccess
  · cases hsuccess

end GrafanaInstall
