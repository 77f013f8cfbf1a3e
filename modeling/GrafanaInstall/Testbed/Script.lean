import GrafanaInstall.Installer

/-!
# Scripts

Stages and installers that do as they are told, to see what is made of their reports.
-/

namespace GrafanaInstall.Testbed

/-! ## Stages -/

inductive Ending where
  | returns (result : Except Error Progress)
  /-- Waits until the run is cancelled. -/
  | hangs

structure ScriptedStage where
  name : String
  ending : Ending
  /-- Cancels the run. A stage that hangs does so in any case. -/
  cancels : Bool := false

structure Visit where
  stage : String
  tenant : Tenant
  config : InstallConfig
  deriving DecidableEq

structure Playback where
  cancelled : Bool := false
  visits : List Visit := []
  deriving DecidableEq

abbrev Rehearsal := StateM Playback

instance : Supervised Rehearsal where
  cancelled := return (← get).cancelled
  log _ := return ()

def ScriptedStage.stage (script : ScriptedStage) : Stage Rehearsal where
  name := script.name
  run config tenant := do
    modify fun p => { p with visits := p.visits ++ [⟨script.name, tenant, config⟩] }
    if script.cancels then
      modify fun p => { p with cancelled := true }
    match script.ending with
    | .returns result => return result.mapError .failed
    | .hangs =>
      modify fun p => { p with cancelled := true }
      return .error .interrupted

/-! ## Installers -/

/-- Reports the same each time and asks nothing of the cluster. -/
def scriptedInstaller (reconcile cleanup : Report) : Installer (Program Cluster) where
  reconcile _ _ := return reconcile
  cleanup _ _ := return cleanup

end GrafanaInstall.Testbed
