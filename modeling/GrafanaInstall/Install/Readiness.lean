import GrafanaInstall.Desired
import GrafanaInstall.Stage

/-!
# Waiting for the operator

The grafana operator is ready once a deployment of its name, or of a longer name, has a ready
pod. A deployment that is missing is only late.
-/

namespace GrafanaInstall.Readiness

open Cluster

def isCandidate (deployment : Deployment) : Bool :=
  hasStem deploymentName deployment.anyName

def readyReplicas (deployment : Deployment) : Int32 :=
  (deployment.body.status.bind (·.readyReplicas)).getD 0

def isReady (deployment : Deployment) : Bool :=
  isCandidate deployment && 0 < readyReplicas deployment

def check (ns : String) : Task Cluster Progress := do
  let deployments ← list .deployment ns
  match deployments.find? isReady with
  | some deployment =>
    log .debug "grafana operator ready"
      [("name", .string deployment.anyName), ("namespace", .string ns)]
    return .success
  | none =>
    log .debug "waiting for grafana operator deployment"
      [("candidates", .int (deployments.countP isCandidate)), ("namespace", .string ns)]
    return .inProgress

def stage : Stage (Program Cluster) where
  name := "readiness"
  run _ tenant := check tenant.ns

end GrafanaInstall.Readiness
