import GrafanaInstall.Controller
import GrafanaInstall.Proofs.Program.Task
import GrafanaInstall.Proofs.Program.Triple

/-!
# What a round finds

A round on a live observability finds a fault in its spec, or has the stages report on it. The
finding is recorded, and only then does it count.
-/

namespace GrafanaInstall

open Program

/-! ## Findings -/

/-- What a round comes to know of a live observability. -/
inductive Finding where
  | invalid (error : Error)
  | reported (report : Report)

namespace Finding

def status : Finding → ObservabilityStatus
  | .invalid error => { stage := none, stageStatus := .failed, message := some error.message }
  | .reported ⟨stage, .success⟩ => { stage, stageStatus := .success, message := none }
  | .reported ⟨stage, .inProgress⟩ => { stage, stageStatus := .inProgress, message := none }
  | .reported ⟨stage, .failed error⟩ =>
    { stage, stageStatus := .failed, message := some error.message }

def result (settings : Controller.Settings) : Finding → Except Halt Action
  | .invalid _ => .ok .awaitChange
  | .reported ⟨_, .success⟩ | .reported ⟨_, .inProgress⟩ => .ok (.requeue settings.requeueSeconds)
  | .reported ⟨_, .failed error⟩ => .error (.failed error)

theorem status_reported (report : Report) :
    (reported report).status = Controller.statusOf report := by
  rcases report with ⟨stage, _ | _ | error⟩ <;> rfl

end Finding

/-! ## The parts of a round -/

namespace Controller

variable (installer : Installer (Program Cluster)) (settings : Settings) (obs : Observability)

/-- The part of a round that makes the finding. -/
def look : Task Cluster Finding := do
  match Tenant.ofObservability obs settings.config with
  | .error error =>
    Cluster.log .warn "invalid observability resource" [("error", .string error.message)]
    return .invalid error
  | .ok tenant => return .reported (← ExceptT.lift (installer.reconcile settings.config tenant))

/-- The part of a round that comes after the finding is recorded. -/
def conclude : Finding → Task Cluster Action
  | .invalid _ => return .awaitChange
  | .reported report =>
    match report.outcome with
    | .success => do
      Cluster.log .debug "grafana installation converged" []
      return .requeue settings.requeueSeconds
    | .inProgress => return .requeue settings.requeueSeconds
    | .failed error => Task.fail error

theorem install_eq (ns : String) :
    install installer settings obs ns = (do
      let finding ← look installer settings obs
      recordStatus obs ns finding.status
      conclude settings finding) := by
  rw [install, look]
  cases Tenant.ofObservability obs settings.config with
  | error error => rfl
  | ok tenant =>
    dsimp only
    rw [LawfulMonad.bind_assoc]
    refine bind_congr fun report => ?_
    rw [LawfulMonad.pure_bind, Finding.status_reported]
    rfl

variable (handler : Handler Cluster σ) (s : σ)

/-- What a round finds: the fault of the spec, or if it has none what the stages report. -/
def finding : Finding :=
  match Tenant.ofObservability obs settings.config with
  | .error error => .invalid error
  | .ok tenant => .reported ((installer.reconcile settings.config tenant).run handler s).1

def stageVisits : List (Call × σ) :=
  match Tenant.ofObservability obs settings.config with
  | .error _ => []
  | .ok tenant => (installer.reconcile settings.config tenant).visits handler s

theorem look_visits :
    Program.visits handler (look installer settings obs) s =
      stageVisits installer settings obs handler s := by
  rw [look, stageVisits]
  cases Tenant.ofObservability obs settings.config with
  | error error => rfl
  | ok tenant =>
    refine (Task.visits_bind ..).trans ?_
    rw [Task.visits_lift, Task.run_lift]
    exact List.append_nil _

variable {installer} {settings} {obs} {handler} {s} in
theorem look_of_ok {tenant : Tenant} {report : Report} {after : σ}
    (htenant : Tenant.ofObservability obs settings.config = .ok tenant)
    (hrun : (installer.reconcile settings.config tenant).run handler s = (report, after)) :
    Program.run handler (look installer settings obs) s = (.ok (.reported report), after) := by
  rw [look, htenant]
  refine (Task.run_bind handler (ExceptT.lift _) _ s).trans ?_
  rw [Task.run_lift, hrun]
  rfl

theorem look_result :
    (Program.run handler (look installer settings obs) s).1 =
      .ok (finding installer settings obs handler s) := by
  rw [finding]
  cases htenant : Tenant.ofObservability obs settings.config with
  | error error =>
    rw [look, htenant]
    rfl
  | ok tenant => exact congrArg Prod.fst (look_of_ok htenant rfl)

theorem conclude_visits (finding : Finding) :
    Program.visits handler (conclude settings finding) s = [] := by
  rcases finding with _ | ⟨_, _ | _ | _⟩ <;> rfl

theorem conclude_result (finding : Finding) :
    (Program.run handler (conclude settings finding) s).1 = finding.result settings := by
  rcases finding with _ | ⟨_, _ | _ | _⟩ <;> rfl

/-! ## Records -/

/-- The patch that records a status, if one is needed, with the state that it is put to. -/
def patches (ns : String) (status : ObservabilityStatus) : List (Call × σ) :=
  if obs.body.status = some status then [] else [(.patchStatus ns obs.anyName status, s)]

def recorded (ns : String) (status : ObservabilityStatus) : Except Halt Unit :=
  if obs.body.status = some status then .ok ()
  else (handler (.call (.patchStatus ns obs.anyName status)) s).1

theorem recordStatus_visits (ns : String) (status : ObservabilityStatus) :
    Program.visits handler (recordStatus obs ns status) s = patches obs s ns status := by
  rw [recordStatus, patches]
  split <;> rfl

theorem recordStatus_result (ns : String) (status : ObservabilityStatus) :
    (Program.run handler (recordStatus obs ns status) s).1 = recorded obs handler s ns status := by
  by_cases hsame : obs.body.status = some status
  · rw [recordStatus, if_pos hsame]
    exact (if_pos hsame).symm
  · rw [recordStatus, if_neg hsame]
    exact (if_neg hsame).symm

/-! ## Rounds -/

def looked : σ := (Program.run handler (look installer settings obs) s).2

theorem run_look : Program.run handler (look installer settings obs) s =
    (.ok (finding installer settings obs handler s), looked installer settings obs handler s) :=
  Prod.ext (look_result ..) rfl

theorem install_visits (ns : String) :
    Program.visits handler (install installer settings obs ns) s =
      stageVisits installer settings obs handler s ++
        patches obs (looked installer settings obs handler s) ns
          (finding installer settings obs handler s).status := by
  rw [install_eq]
  refine (Task.visits_bind ..).trans ?_
  rw [look_visits, run_look]
  refine congrArg _ ((Task.visits_bind ..).trans ?_)
  rw [recordStatus_visits]
  split
  · rw [conclude_visits, List.append_nil]
  · rw [List.append_nil]

theorem install_run (ns : String) :
    Program.run handler (install installer settings obs ns) s =
      Program.run handler (do
        recordStatus obs ns (finding installer settings obs handler s).status
        conclude settings (finding installer settings obs handler s) : Task Cluster Action)
        (looked installer settings obs handler s) := by
  rw [install_eq, Task.run_bind_ok (run_look ..)]

theorem install_result (ns : String) :
    (Program.run handler (install installer settings obs ns) s).1 =
      (recorded obs handler (looked installer settings obs handler s) ns
        (finding installer settings obs handler s).status).bind
        fun _ => (finding installer settings obs handler s).result settings := by
  rw [install_run, Task.run_bind, ← recordStatus_result]
  rcases Program.run handler (recordStatus ..) _ with ⟨halt | _, after⟩
  · rfl
  · exact conclude_result ..

end Controller

end GrafanaInstall
