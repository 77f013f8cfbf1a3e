import GrafanaInstall.Installer

/-!
# The controller

One round for one observability: its finalizer is stored before anything is installed, the
report of the installer is recorded as its status, and when it is being deleted the finalizer
goes only after all that was installed.
-/

namespace GrafanaInstall

/-- When the controller looks at the object again. -/
inductive Action where
  | awaitChange
  | requeue (seconds : Nat)
  deriving DecidableEq

namespace Controller

/-- Holds the object back until the installation is gone. -/
def finalizer : String := "observability.redhat.com/grafana-installation"

/-- Seconds from the storing of the finalizer to the first installation. -/
def finalizerDelay : Nat := 1

structure Settings where
  config : InstallConfig := {}
  requeueSeconds : Nat := 30

def statusOf (report : Report) : ObservabilityStatus where
  stage := report.stage
  stageStatus := report.outcome.status
  message := report.message

def recordStatus (obs : Observability) (ns : String) (status : ObservabilityStatus) :
    Task Cluster Unit :=
  if obs.body.status = some status then
    Cluster.log .debug "status unchanged" []
  else
    Cluster.call (.patchStatus ns obs.anyName status)

/-- Takes the installation down. It depends on the namespace alone, so that an object with an
invalid spec can be deleted too. -/
def finish (installer : Installer (Program Cluster)) (settings : Settings) (obs : Observability)
    (ns : String) : Task Cluster Action := do
  if !obs.metadata.hasFinalizer finalizer then
    return .awaitChange
  let tenant := { ns, version := settings.config.defaultVersion }
  let report ← ExceptT.lift (installer.cleanup settings.config tenant)
  match report.outcome with
  | .success =>
    Cluster.log .info "grafana installation removed, releasing finalizer" []
    Cluster.call (.removeFinalizer ns obs.anyName finalizer)
    return .awaitChange
  | .inProgress => return .requeue settings.requeueSeconds
  | .failed error => Task.fail error

def install (installer : Installer (Program Cluster)) (settings : Settings) (obs : Observability)
    (ns : String) : Task Cluster Action := do
  match Tenant.ofObservability obs settings.config with
  | .error error =>
    Cluster.log .warn "invalid observability resource" [("error", .string error.message)]
    recordStatus obs ns { stageStatus := .failed, message := error.message }
    return .awaitChange
  | .ok tenant =>
    let report ← ExceptT.lift (installer.reconcile settings.config tenant)
    recordStatus obs ns (statusOf report)
    match report.outcome with
    | .success =>
      Cluster.log .debug "grafana installation converged" []
      return .requeue settings.requeueSeconds
    | .inProgress => return .requeue settings.requeueSeconds
    | .failed error => Task.fail error

def reconcile (installer : Installer (Program Cluster)) (settings : Settings)
    (obs : Observability) : Task Cluster Action := do
  let some ns := obs.metadata.ns
    | Task.fail (.validation obs.anyName "metadata.namespace is required")
  if obs.metadata.deletionTimestamp.isSome then
    finish installer settings obs ns
  else if obs.metadata.hasFinalizer finalizer then
    install installer settings obs ns
  else
    Cluster.log .info "adding finalizer" []
    Cluster.call (.addFinalizer ns obs.anyName finalizer)
    return .requeue finalizerDelay

def onError (settings : Settings) (obs : Observability) (error : Error) :
    Program Cluster Action := do
  Supervised.log ⟨.error, "reconciliation failed",
    [("error", .string error.detail), ("observability", .string obs.anyName),
      ("retryable", .bool error.isRetryable)]⟩
  return .requeue settings.requeueSeconds

end Controller

end GrafanaInstall
