import GrafanaInstall.Desired
import GrafanaInstall.Stage

/-!
# Removing the former install

Before the managed catalog can take over, the subscription of the former install has to go, and
with it the record of the version that it installed. The record goes in its own time, so a run
that has asked for it stops there and a later one goes on.
-/

namespace GrafanaInstall.Legacy

open Cluster

def removeSubscription (ns : String) (legacy : Subscription) : Task Cluster Unit := do
  let name := legacy.anyName
  let fields := [("name", .string name), ("namespace", .string ns)]
  if ← deleteIfPresent .subscription ns name then
    log .info "removed legacy grafana subscription" fields
  else
    log .debug "legacy subscription already gone" fields

/-- Deletes the first version record of the grafana operator. -/
def removeVersionRecord (ns : String) : Task Cluster Progress := do
  let records ← list .clusterServiceVersion ns
  match records.find? fun record => isVersionRecordName record.anyName with
  | none =>
    log .debug "no legacy grafana operator version record" [("namespace", .string ns)]
    return .success
  | some record =>
    let name := record.anyName
    let _ ← deleteIfPresent .clusterServiceVersion ns name
    log .info "deleting legacy grafana operator version record, waiting for removal"
      [("name", .string name), ("namespace", .string ns)]
    return .inProgress

def remove (ns : String) : Task Cluster Progress := do
  let subscriptions ← list .subscription ns
  match subscriptions.filter isLegacySubscription with
  | [] =>
    log .debug "no legacy grafana subscription" [("namespace", .string ns)]
    return .success
  | legacy =>
    legacy.forM (removeSubscription ns)
    removeVersionRecord ns

def stage : Stage (Program Cluster) where
  name := "migration"
  run _ tenant := remove tenant.ns

end GrafanaInstall.Legacy
