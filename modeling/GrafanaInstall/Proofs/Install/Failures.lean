import GrafanaInstall.Proofs.Install.GivesUp
import GrafanaInstall.Proofs.Oracle

/-!
# Failures of installing and removing

Whatever a store answers, an installation and a removal fail just by the first answer that they may
not bear. They report the stage that got it and its error as it came, and ask for nothing more.
-/

namespace GrafanaInstall

variable (config : InstallConfig) (tenant : Tenant)

namespace Oracle

variable (oracle : Oracle)

/-- How a program made of some stages accounts for the answers that it got. -/
structure Accounts (stages : Pipeline (Program Cluster)) (program : Program Cluster Report) :
    Prop where
  /-- It fails just if some answer was a fault. -/
  failed_iff {report : Report} {answers : List Answered}
    (hrun : program.run oracle.serve [] = (report, answers)) :
    (∃ error, report.outcome = .failed error) ↔ ∃ answered ∈ answers, answered.fault?.isSome
  /-- It fails by the first fault, and that is the last answer that it gets. The stages before the
  one that it names succeeded, and that one got the fault. -/
  failed {report : Report} {answers : List Answered} {error : Error}
    (hrun : program.run oracle.serve [] = (report, answers))
    (herror : report.outcome = .failed error) :
    ∃ passed stage later last middle own fault,
      stages = passed ++ stage :: later ∧ report.stage = some stage.name ∧
        (Pipeline.run passed config tenant).run oracle.serve [] = (last, middle) ∧
        last.outcome = .success ∧
        Program.run oracle.serve (stage.run config tenant) middle =
          (.error (.failed error), answers) ∧
        answers = middle ++ own ++ [fault] ∧ Faultless (middle ++ own) ∧
        fault.fault? = some error
  /-- It makes the same calls and reports the same however it is told that something is gone. -/
  indifferent (other : Oracle) (h : oracle.Alike other) :
    Task.Agree (program.run oracle.serve []) (program.run other.serve [])

variable {config tenant} {stages : Pipeline (Program Cluster)}

theorem Ended.failed_iff {report : Report} {answers : List Answered}
    (h : oracle.Ended config tenant ⟨none, .success⟩ stages [] (report, answers)) :
    (∃ error, report.outcome = .failed error) ↔ ∃ answered ∈ answers, answered.fault?.isSome := by
  cases h with
  | clean hafter hown hreport =>
    constructor
    · rintro ⟨error, herror⟩
      rw [herror] at hreport
      cases hreport
    · rintro ⟨answered, hmem, hsome⟩
      rw [hafter] at hmem
      rw [hown answered hmem] at hsome
      cases hsome
  | @failed _ _ _ _ _ _ _ own fault error _ _ _ _ _ hafter _ hfault =>
    refine ⟨fun _ => ⟨fault, ?_, by rw [hfault]; rfl⟩, fun _ => ⟨error, rfl⟩⟩
    rw [hafter]
    exact List.mem_append_right _ List.mem_cons_self

theorem run_accounts {P : Call → Prop}
    (h : ∀ stage ∈ stages, Task.Plain P (stage.run config tenant)) :
    oracle.Accounts config tenant stages (stages.run config tenant) := by
  have hended {report : Report} {answers : List Answered}
      (hrun : (stages.run config tenant).run oracle.serve [] = (report, answers)) :
      oracle.Ended config tenant ⟨none, .success⟩ stages [] (report, answers) :=
    hrun ▸ oracle.runFrom_ended h [] rfl
  refine ⟨fun hrun => (hended hrun).failed_iff, fun hrun herror => ?_,
    fun other halike => oracle.runFrom_agree halike h rfl⟩
  cases hended hrun with
  | clean _ _ hreport =>
    rw [herror] at hreport
    cases hreport
  | failed hstages hpassed hmiddle hlast hstage hafter hown hfault =>
    cases herror
    subst hmiddle
    exact ⟨_, _, _, _, _, _, _, hstages, rfl, hpassed, hlast, hstage, hafter, hown, hfault⟩

theorem Accounts.of_run {program other : Program Cluster Report}
    (h : oracle.Accounts config tenant stages program)
    (hrun : ∀ oracle : Oracle, other.run oracle.serve [] = program.run oracle.serve []) :
    oracle.Accounts config tenant stages other where
  failed_iff hother := h.failed_iff ((hrun oracle).symm.trans hother)
  failed hother := h.failed ((hrun oracle).symm.trans hother)
  indifferent other halike := by
    rw [hrun, hrun]
    exact h.indifferent other halike

theorem removal_run (past : List Answered) :
    (Installer.removal config tenant).run oracle.serve past =
      (Pipeline.run [Teardown.stage] config tenant).run oracle.serve past := by
  refine (Program.run_bind oracle.serve (Teardown.stage.attempt config tenant) _ past).trans ?_
  refine Eq.trans ?_
    (Program.run_bind oracle.serve (Teardown.stage.attempt config tenant) _ past).symm
  rcases (Teardown.stage.attempt config tenant).run oracle.serve past with
    ⟨_ | _ | error, after⟩ <;> rfl

end Oracle

/-- Whatever the store answers, an installation and a removal bear nothing but that what they delete
is not there, and fail by the first other error. -/
theorem only_absence_is_borne (oracle : Oracle) (config : InstallConfig) (tenant : Tenant) :
    oracle.Accounts config tenant installation (Installer.grafana.reconcile config tenant) ∧
      oracle.Accounts config tenant [Teardown.stage] (Installer.grafana.cleanup config tenant) := by
  have hremoval : ∀ stage ∈ [Teardown.stage],
      Task.Plain (RemovalCall tenant.ns) (stage.run config tenant) :=
    List.forall_mem_singleton.mpr (Teardown.run_plain tenant.ns)
  exact ⟨oracle.run_accounts (stages_plain config tenant),
    (oracle.run_accounts hremoval).of_run oracle fun other => other.removal_run []⟩

end GrafanaInstall
