import GrafanaInstall.Proofs.Program.Asks
import GrafanaInstall.Proofs.Program.Task
import GrafanaInstall.Proofs.Trial

/-!
# Oracles

Runs against a store about which nothing is known: what it answers may depend on all that it was
asked before, and one answer need not go with another. Such a run can only go by the answers. It
bears no error but that something it wants deleted is not there, it reports the first other one,
and it does not care how it is told that something is gone.
-/

namespace GrafanaInstall

/-! ## Answers -/

structure Answered where
  call : Call
  reply : Except Error call.Result

/-- The error of an answer that is not to be borne. -/
def Answered.fault? (answered : Answered) : Option Error :=
  match answered.reply with
  | .ok _ => none
  | .error error => if answered.call.isDelete && error.isNotFound then none else some error

def Faultless (answers : List Answered) : Prop :=
  ∀ answered ∈ answers, answered.fault? = none

theorem faultless_append {first second : List Answered} :
    Faultless (first ++ second) ↔ Faultless first ∧ Faultless second :=
  List.forall_mem_append

abbrev Oracle := (asked : List Call) → (call : Call) → Except Error call.Result

namespace Oracle

def serve (oracle : Oracle) : Handler Cluster (List Answered)
  | .call call, past =>
    let reply := oracle (past.map (·.call)) call
    (reply.mapError .failed, past ++ [⟨call, reply⟩])
  | .log _, past => ((), past)
  | .cancelled, past => (false, past)

/-- Two answers to a call are alike if they are the same, or both say of what is to be deleted that
it is not there. -/
inductive AlikeReply : (call : Call) → Except Error call.Result → Except Error call.Result → Prop
  | same (call : Call) (reply : Except Error call.Result) : AlikeReply call reply reply
  | absent {k : Kind} {ns name : String} {error other : Error} (h : error.isNotFound)
    (hother : other.isNotFound) : AlikeReply (.delete k ns name) (.error error) (.error other)

def Alike (oracle other : Oracle) : Prop :=
  ∀ asked call, AlikeReply call (oracle asked call) (other asked call)

end Oracle

/-! ## What a plain task comes to -/

namespace Task

/-- What a task adds to the answers so far, and how it ends. It halts at the first fault. -/
inductive Ran (past after : List Answered) : Except Halt α → Prop
  | done {own : List Answered} (hafter : after = past ++ own) (h : Faultless own) (a : α) :
    Ran past after (.ok a)
  | halted {own : List Answered} {fault : Answered} {error : Error}
    (hafter : after = past ++ own ++ [fault]) (h : Faultless own)
    (hfault : fault.fault? = some error) : Ran past after (.error (.failed error))

namespace Ran

variable {past after own : List Answered}

theorem nil (past : List Answered) (a : α) : Ran past past (.ok a) :=
  .done (List.append_nil past).symm (fun _ hmem => absurd hmem List.not_mem_nil) a

theorem after_done {result : Except Halt α} (h : Faultless own)
    (hrest : Ran (past ++ own) after result) : Ran past after result := by
  cases hrest with
  | done hafter hmore a =>
    rw [List.append_assoc] at hafter
    exact .done hafter (faultless_append.mpr ⟨h, hmore⟩) a
  | halted hafter hmore hfault =>
    rw [List.append_assoc past] at hafter
    exact .halted hafter (faultless_append.mpr ⟨h, hmore⟩) hfault

theorem of_answer {answered : Answered} {result : Except Halt α}
    (hnone : answered.fault? = none → ∃ a, result = .ok a)
    (hsome : ∀ error, answered.fault? = some error → result = .error (.failed error)) :
    Ran past (past ++ [answered]) result := by
  cases hfault : answered.fault? with
  | none =>
    obtain ⟨a, rfl⟩ := hnone hfault
    exact .done rfl (List.forall_mem_singleton.mpr hfault) a
  | some error =>
    have hafter : past ++ [answered] = past ++ [] ++ [answered] := by rw [List.append_nil]
    rw [hsome error hfault]
    exact .halted hafter (fun _ hmem => absurd hmem List.not_mem_nil) hfault

end Ran

theorem ran_call (oracle : Oracle) (past : List Answered) {call : Call}
    (h : call.isDelete = false) :
    Ran past (Program.run oracle.serve (Cluster.call call) past).2
      (Program.run oracle.serve (Cluster.call call) past).1 := by
  show Ran past (past ++ [⟨call, oracle (past.map (·.call)) call⟩])
    ((oracle (past.map (·.call)) call).mapError .failed)
  cases oracle (past.map (·.call)) call with
  | ok result => exact .of_answer (fun _ => ⟨result, rfl⟩) fun _ hfault => nomatch hfault
  | error error =>
    have hfault : (Answered.mk call (.error error)).fault? = some error := by
      simp [Answered.fault?, h]
    refine .of_answer (fun hnone => ?_) fun other hother => ?_
    · rw [hfault] at hnone
      cases hnone
    · rw [hfault] at hother
      cases hother
      rfl

/-- How a delete ends that bears the news that its object is not there. -/
def deleted : Except Error Unit → Except Halt Bool
  | .ok () => .ok true
  | .error error => if error.isNotFound then .ok false else .error (.failed error)

theorem run_deleteIfPresent (oracle : Oracle) (k : Kind) (ns name : String)
    (past : List Answered) :
    Program.run oracle.serve (Cluster.deleteIfPresent k ns name) past =
      let reply := oracle (past.map (·.call)) (.delete k ns name)
      (deleted reply, past ++ [⟨.delete k ns name, reply⟩]) := by
  have hserve : Program.run oracle.serve (Cluster.delete k ns name) past =
      oracle.serve (.call (.delete k ns name)) past := rfl
  rw [Cluster.deleteIfPresent, run_recover, run_bind, hserve, Oracle.serve]
  dsimp only
  cases oracle (past.map (·.call)) (.delete k ns name) with
  | ok => rfl
  | error error =>
    let absent : Task Cluster Bool := return false
    show Program.run oracle.serve
      ((if error.isNotFound then some absent else none).getD (fail error)) _ = _
    rw [deleted]
    split <;> rfl

theorem ran_deleteIfPresent (oracle : Oracle) (past : List Answered) (k : Kind)
    (ns name : String) :
    Ran past (Program.run oracle.serve (Cluster.deleteIfPresent k ns name) past).2
      (Program.run oracle.serve (Cluster.deleteIfPresent k ns name) past).1 := by
  rw [run_deleteIfPresent]
  dsimp only
  cases oracle (past.map (·.call)) (.delete k ns name) with
  | ok => exact .of_answer (fun _ => ⟨true, rfl⟩) fun _ hfault => nomatch hfault
  | error error =>
    by_cases hfound : error.isNotFound
    · refine .of_answer (fun _ => ⟨false, by simp [deleted, hfound]⟩) fun other hother => ?_
      simp [Answered.fault?, Call.isDelete, hfound] at hother
    · refine .of_answer (fun hnone => ?_) fun other hother => ?_
      · simp [Answered.fault?, hfound] at hnone
      · obtain rfl : error = other := by simpa [Answered.fault?, hfound] using hother
        simp [deleted, hfound]

theorem Plain.ran {P : Call → Prop} {task : Task Cluster α} (h : task.Plain P) (oracle : Oracle)
    (past : List Answered) :
    Ran past (Program.run oracle.serve task past).2 (Program.run oracle.serve task past).1 := by
  induction h generalizing past with
  | pure a => exact .nil past a
  | log level message fields => exact .nil past ()
  | list => exact ran_call oracle past rfl
  | apply => exact ran_call oracle past rfl
  | deleteIfPresent => exact ran_deleteIfPresent oracle past ..
  | @bind _ _ task f _ _ ih ihf =>
    have hfirst := ih past
    rw [run_bind]
    rcases hrun : Program.run oracle.serve task past with ⟨result, middle⟩
    rw [hrun] at hfirst
    cases hfirst with
    | done hafter hown a =>
      subst hafter
      exact .after_done hown (ihf a _)
    | halted hafter hown hfault => exact .halted hafter hown hfault

/-! ## Alike oracles -/

/-- A run with one oracle ends like a run with another, after the same calls. -/
def Agree (run run' : α × List Answered) : Prop :=
  run.1 = run'.1 ∧ run.2.map (·.call) = run'.2.map (·.call)

theorem agree_call {oracle other : Oracle} (halike : oracle.Alike other)
    {past past' : List Answered} (hpast : past.map (·.call) = past'.map (·.call)) {call : Call}
    (h : call.isDelete = false) :
    Agree (Program.run oracle.serve (Cluster.call call) past)
      (Program.run other.serve (Cluster.call call) past') := by
  have hreply : oracle (past.map (·.call)) call = other (past'.map (·.call)) call := by
    rw [← hpast]
    have hboth := halike (past.map (·.call)) call
    generalize oracle (past.map (·.call)) call = reply at hboth ⊢
    generalize other (past.map (·.call)) call = reply' at hboth ⊢
    cases hboth with
    | same => rfl
    | absent => cases h
  constructor
  · exact congrArg (Except.mapError Halt.failed) hreply
  · show (past ++ [_]).map _ = (past' ++ [_]).map _
    rw [List.map_append, List.map_append, hpast]
    rfl

theorem agree_deleteIfPresent {oracle other : Oracle} (halike : oracle.Alike other)
    {past past' : List Answered} (hpast : past.map (·.call) = past'.map (·.call)) (k : Kind)
    (ns name : String) :
    Agree (Program.run oracle.serve (Cluster.deleteIfPresent k ns name) past)
      (Program.run other.serve (Cluster.deleteIfPresent k ns name) past') := by
  rw [run_deleteIfPresent, run_deleteIfPresent]
  constructor
  · dsimp only
    rw [← hpast]
    have hboth := halike (past.map (·.call)) (.delete k ns name)
    generalize oracle (past.map (·.call)) (.delete k ns name) = reply at hboth ⊢
    generalize other (past.map (·.call)) (.delete k ns name) = reply' at hboth ⊢
    cases hboth with
    | same => rfl
    | absent h hother => simp [deleted, h, hother]
  · dsimp only
    rw [List.map_append, List.map_append, hpast]
    rfl

theorem Plain.agree {P : Call → Prop} {task : Task Cluster α} (h : task.Plain P)
    {oracle other : Oracle} (halike : oracle.Alike other) {past past' : List Answered}
    (hpast : past.map (·.call) = past'.map (·.call)) :
    Agree (Program.run oracle.serve task past) (Program.run other.serve task past') := by
  induction h generalizing past past' with
  | pure a => exact ⟨rfl, hpast⟩
  | log level message fields => exact ⟨rfl, hpast⟩
  | list => exact agree_call halike hpast rfl
  | apply => exact agree_call halike hpast rfl
  | deleteIfPresent => exact agree_deleteIfPresent halike hpast ..
  | @bind _ _ task f _ _ ih ihf =>
    obtain ⟨hresult, hcalls⟩ := ih hpast
    rw [run_bind, run_bind]
    rcases hrun : Program.run oracle.serve task past with ⟨result, middle⟩
    rcases hrun' : Program.run other.serve task past' with ⟨result', middle'⟩
    rw [hrun, hrun'] at hresult hcalls
    obtain rfl : result = result' := hresult
    cases result with
    | ok a => exact ihf a hcalls
    | error halt => exact ⟨rfl, hcalls⟩

end Task

/-! ## Pipelines -/

namespace Oracle

variable (oracle : Oracle) {P : Call → Prop} {config : InstallConfig} {tenant : Tenant}
  {last : Report}

theorem runFrom_cons (stage : Stage (Program Cluster)) (rest : Pipeline (Program Cluster))
    (past : List Answered) :
    (Pipeline.runFrom config tenant last (stage :: rest)).run oracle.serve past =
      match Program.run oracle.serve (stage.run config tenant) past with
      | (.ok .success, after) =>
        (Pipeline.runFrom config tenant ⟨some stage.name, .success⟩ rest).run oracle.serve after
      | (.ok .inProgress, after) => (⟨some stage.name, .inProgress⟩, after)
      | (.error halt, after) => (⟨some stage.name, .failed (halt.errorIn stage.name)⟩, after) := by
  -- The run is not cancelled, so the stage is attempted.
  have hattempt : (stage.attempt config tenant).run oracle.serve past =
      match Program.run oracle.serve (stage.run config tenant) past with
      | (.ok progress, after) => (.ofProgress progress, after)
      | (.error halt, after) => (.failed (halt.errorIn stage.name), after) := by
    refine (Program.run_bind oracle.serve (stage.run config tenant) _ past).trans ?_
    rcases Program.run oracle.serve (stage.run config tenant) past with
      ⟨(error | _) | progress, after⟩ <;> rfl
  refine (Program.run_bind oracle.serve (stage.attempt config tenant) _ past).trans ?_
  rw [hattempt]
  rcases Program.run oracle.serve (stage.run config tenant) past with
    ⟨halt | (_ | _), after⟩ <;> rfl

/-- How a run of some stages ends: without a fault, or in the stage that was answered with the first
one. -/
inductive Ended (config : InstallConfig) (tenant : Tenant) (last : Report)
    (stages : Pipeline (Program Cluster)) (past : List Answered) : Report × List Answered → Prop
  | clean {report : Report} {after own : List Answered} (hafter : after = past ++ own)
    (h : Faultless own) (hreport : report.outcome.error? = none) :
    Ended config tenant last stages past (report, after)
  | failed {passed later : Pipeline (Program Cluster)} {stage : Stage (Program Cluster)}
    {report : Report} {middle after before own : List Answered} {fault : Answered} {error : Error}
    (hstages : stages = passed ++ stage :: later)
    (hpassed : (Pipeline.runFrom config tenant last passed).run oracle.serve past =
      (report, middle))
    (hmiddle : middle = past ++ before) (hreport : report.outcome = .success)
    (hrun : Program.run oracle.serve (stage.run config tenant) middle =
      (.error (.failed error), after))
    (hafter : after = middle ++ own ++ [fault]) (h : Faultless (before ++ own))
    (hfault : fault.fault? = some error) :
    Ended config tenant last stages past (⟨some stage.name, .failed error⟩, after)

theorem Ended.cons {stage : Stage (Program Cluster)} {rest : Pipeline (Program Cluster)}
    {past own : List Answered} {run : Report × List Answered}
    (hrun : Program.run oracle.serve (stage.run config tenant) past = (.ok .success, past ++ own))
    (hown : Faultless own)
    (h : oracle.Ended config tenant ⟨some stage.name, .success⟩ rest (past ++ own) run) :
    oracle.Ended config tenant last (stage :: rest) past run := by
  cases h with
  | clean hafter h hreport =>
    rw [List.append_assoc] at hafter
    exact .clean hafter (faultless_append.mpr ⟨hown, h⟩) hreport
  | @failed passed later failing _ middle _ before _ _ _ hstages hpassed hmiddle hreport hfailing
      hafter h hfault =>
    have hall : stage :: rest = (stage :: passed) ++ failing :: later := by
      rw [hstages, List.cons_append]
    have hmore : middle = past ++ (own ++ before) := by
      rw [hmiddle, List.append_assoc]
    refine .failed hall ?_ hmore hreport hfailing hafter ?_ hfault
    · rw [runFrom_cons, hrun]
      exact hpassed
    · rw [List.append_assoc]
      exact faultless_append.mpr ⟨hown, h⟩

theorem runFrom_ended {stages : Pipeline (Program Cluster)}
    (h : ∀ stage ∈ stages, Task.Plain P (stage.run config tenant)) (past : List Answered)
    (hlast : last.outcome = .success) :
    oracle.Ended config tenant last stages past
      ((Pipeline.runFrom config tenant last stages).run oracle.serve past) := by
  induction stages generalizing past last with
  | nil =>
    exact .clean (List.append_nil past).symm (fun _ hmem => absurd hmem List.not_mem_nil)
      (by rw [hlast]; rfl)
  | cons stage rest ih =>
    obtain ⟨hstage, hrest⟩ := List.forall_mem_cons.mp h
    have hran := hstage.ran oracle past
    rw [runFrom_cons]
    rcases hrun : Program.run oracle.serve (stage.run config tenant) past with ⟨result, after⟩
    rw [hrun] at hran
    cases hran with
    | done hafter hown progress =>
      cases progress with
      | success =>
        subst hafter
        exact .cons oracle hrun hown (ih hrest _ rfl)
      | inProgress => exact .clean hafter hown rfl
    | halted hafter hown hfault =>
      have hfirst : stage :: rest = [] ++ stage :: rest := rfl
      exact .failed hfirst rfl (List.append_nil past).symm hlast hrun hafter hown hfault

theorem runFrom_agree {other : Oracle} (halike : oracle.Alike other)
    {stages : Pipeline (Program Cluster)}
    (h : ∀ stage ∈ stages, Task.Plain P (stage.run config tenant)) {past past' : List Answered}
    (hpast : past.map (·.call) = past'.map (·.call)) :
    Task.Agree ((Pipeline.runFrom config tenant last stages).run oracle.serve past)
      ((Pipeline.runFrom config tenant last stages).run other.serve past') := by
  induction stages generalizing past past' last with
  | nil => exact ⟨rfl, hpast⟩
  | cons stage rest ih =>
    obtain ⟨hstage, hrest⟩ := List.forall_mem_cons.mp h
    obtain ⟨hresult, hcalls⟩ := hstage.agree halike hpast
    rw [runFrom_cons, runFrom_cons]
    rcases hrun : Program.run oracle.serve (stage.run config tenant) past with ⟨result, middle⟩
    rcases hrun' : Program.run other.serve (stage.run config tenant) past' with ⟨result', middle'⟩
    rw [hrun, hrun'] at hresult hcalls
    obtain rfl : result = result' := hresult
    rcases result with halt | (_ | _)
    · exact ⟨rfl, hcalls⟩
    · exact ih hrest hcalls
    · exact ⟨rfl, hcalls⟩

end Oracle

end GrafanaInstall
