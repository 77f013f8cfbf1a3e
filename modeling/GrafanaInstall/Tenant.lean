import GrafanaInstall.Error
import GrafanaInstall.Resource.Kind
import GrafanaInstall.Text.Blank

/-!
# Tenants

A tenant is a namespace with the version that is to be installed in it. It is derived from an
observability, and a run works toward it.
-/

namespace GrafanaInstall

/-- Settings of the operator that are the same for every tenant. -/
structure InstallConfig where
  registry : String := "quay.io/rhoas"
  /-- The version for tenants that do not name one. -/
  defaultVersion : String := "v4.2.0"
  deriving DecidableEq

structure Tenant where
  ns : String
  version : String
  /-- The budget of the operator pod, if it is not to be the default. -/
  resources : Option ResourceRequirements := none
  deriving DecidableEq

namespace Tenant

/-- An observability needs a namespace that is not empty and a version that is not blank. -/
def ofObservability (obs : Observability) (config : InstallConfig) : Except Error Tenant :=
  match obs.metadata.ns.filter (· ≠ "") with
  | none => .error (.validation obs.anyName "metadata.namespace is required")
  | some ns =>
    let version := obs.body.spec.grafanaOperatorVersion.getD config.defaultVersion
    if Text.isBlank version then
      .error (.validation obs.anyName "spec.grafanaOperatorVersion must not be empty")
    else
      .ok { ns, version, resources := obs.body.spec.grafanaOperatorResources }

end Tenant

end GrafanaInstall
