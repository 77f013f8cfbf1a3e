import GrafanaInstall.Desired
import GrafanaInstall.Stage

/-!
# Teardown

Removes what the operator installed, and the deployment of the grafana operator itself. What is
already gone counts as removed. Here the deployment must have the exact name.
-/

namespace GrafanaInstall.Teardown

open Cluster

def remove (k : Kind) (ns name : String) : Task Cluster Unit := do
  let fields := [("kind", .string k.name), ("name", .string name), ("namespace", .string ns)]
  if ← deleteIfPresent k ns name then
    log .debug "deleted" fields
  else
    log .debug "already absent" fields

def run (ns : String) : Task Cluster Progress := do
  remove .catalogSource ns catalogSourceName
  remove .subscription ns subscriptionName
  remove .operatorGroup ns operatorGroupName
  let deployments ← list .deployment ns
  (deployments.filter (·.anyName = deploymentName)).forM fun _ =>
    remove .deployment ns deploymentName
  log .info "grafana operator installation removed" [("namespace", .string ns)]
  return .success

def stage : Stage (Program Cluster) where
  name := "cleanup"
  run _ tenant := run tenant.ns

end GrafanaInstall.Teardown
