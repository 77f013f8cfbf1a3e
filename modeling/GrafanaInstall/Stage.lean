import GrafanaInstall.Cluster
import GrafanaInstall.Tenant

/-!
# Stages

A stage does one part of the installation and reports how far it came. It keeps nothing between
runs: what has been done is read from the cluster each time.
-/

namespace GrafanaInstall

/-- How far a stage came that did not fail. -/
inductive Progress where
  | success
  /-- Something outside has to happen first. -/
  | inProgress
  deriving DecidableEq

inductive Outcome where
  | success
  | inProgress
  | failed (error : Error)
  deriving DecidableEq

namespace Outcome

def ofProgress : Progress → Outcome
  | .success => .success
  | .inProgress => .inProgress

def ofResult : Except Error Progress → Outcome
  | .ok progress => ofProgress progress
  | .error error => .failed error

def isSuccess : Outcome → Bool
  | .success => true
  | _ => false

def status : Outcome → StageStatus
  | .success => .success
  | .inProgress => .inProgress
  | .failed _ => .failed

def error? : Outcome → Option Error
  | .failed error => some error
  | _ => none

end Outcome

structure Stage (m : Type → Type) where
  name : String
  run : InstallConfig → Tenant → m (Except Halt Progress)

/-- The last stage that ran, if any did, and what it reported. -/
structure Report where
  stage : Option String
  outcome : Outcome
  deriving DecidableEq

namespace Report

def message (r : Report) : Option String :=
  r.outcome.error?.map Error.message

end Report

namespace Stage

variable {m : Type → Type} [Monad m] [Supervised m]

/-- Runs a stage unless the run is cancelled. A stage that is interrupted counts as cancelled. -/
def attempt (stage : Stage m) (config : InstallConfig) (tenant : Tenant) : m Outcome := do
  if ← Supervised.cancelled then
    return .failed (.cancelled stage.name)
  match ← stage.run config tenant with
  | .ok progress => return .ofProgress progress
  | .error (.failed error) => return .failed error
  | .error .interrupted => return .failed (.cancelled stage.name)

def endEvent (name : String) : Outcome → Event
  | .success => ⟨.debug, "stage converged", [("stage", .string name)]⟩
  | .inProgress => ⟨.info, "stage in progress, yielding", [("stage", .string name)]⟩
  | .failed error =>
    ⟨.warn, "stage failed", [("error", .string error.message), ("stage", .string name)]⟩

end Stage

/-! ## Pipelines -/

abbrev Pipeline (m : Type → Type) := List (Stage m)

namespace Pipeline

variable {m : Type → Type} [Monad m] [Supervised m]

def stageNames (stages : Pipeline m) : List String :=
  List.map Stage.name stages

/-- Runs the stages up to the first that does not succeed. `last` is the report so far. -/
def runFrom (config : InstallConfig) (tenant : Tenant) (last : Report) : Pipeline m → m Report
  | [] => return last
  | stage :: rest => do
    let outcome ← stage.attempt config tenant
    Supervised.log (Stage.endEvent stage.name outcome)
    let report := ⟨some stage.name, outcome⟩
    if outcome.isSuccess then runFrom config tenant report rest else return report

/-- The report of the last stage that ran. Without stages it is a success of none. -/
def run (stages : Pipeline m) (config : InstallConfig) (tenant : Tenant) : m Report :=
  runFrom config tenant ⟨none, .success⟩ stages

end Pipeline

end GrafanaInstall
