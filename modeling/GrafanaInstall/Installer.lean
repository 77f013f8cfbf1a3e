import GrafanaInstall.Install.Legacy
import GrafanaInstall.Install.Objects
import GrafanaInstall.Install.Readiness
import GrafanaInstall.Install.Teardown

/-!
# Installers

An installer brings a tenant to its desired state and removes all of it again. Both may be run
any number of times. There is one installer, that of the grafana operator.
-/

namespace GrafanaInstall

structure Installer (m : Type → Type) where
  reconcile : InstallConfig → Tenant → m Report
  cleanup : InstallConfig → Tenant → m Report

def installation : Pipeline (Program Cluster) :=
  [Legacy.stage, Objects.catalogSourceStage, Objects.subscriptionStage,
    Objects.operatorGroupStage, Readiness.stage]

namespace Installer

def removal (config : InstallConfig) (tenant : Tenant) : Program Cluster Report := do
  let outcome ← Teardown.stage.attempt config tenant
  if let some error := outcome.error? then
    Supervised.log ⟨.warn, "cleanup failed", [("error", .string error.message)]⟩
  return ⟨some Teardown.stage.name, outcome⟩

def grafana : Installer (Program Cluster) where
  reconcile := installation.run
  cleanup := removal

end Installer

end GrafanaInstall
