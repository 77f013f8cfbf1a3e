import GrafanaInstall.Desired
import GrafanaInstall.Stage

/-!
# Applying the desired objects

The catalog source and the subscription are overwritten whenever they differ. Operators cannot
be installed in a namespace with two operator groups, so the group is made only where there is
none, and any group that is there will do.
-/

namespace GrafanaInstall.Objects

open Cluster

def shown : Option String → Json
  | some text => .string ("Some(" ++ Text.quoted text ++ ")")
  | none => .string "None"

def applyCatalogSource (config : InstallConfig) (tenant : Tenant) : Task Cluster Progress := do
  let desired := tenant.catalogSource config
  let result ← apply desired
  log .debug "catalog source reconciled"
    [("image", shown desired.body.image), ("namespace", .string tenant.ns),
      ("result", .string result.text)]
  return .success

def applySubscription (tenant : Tenant) : Task Cluster Progress := do
  let desired := tenant.subscription
  let result ← apply desired
  log .debug "subscription reconciled"
    [("namespace", .string tenant.ns), ("result", .string result.text),
      ("starting_csv", shown desired.body.startingCsv)]
  return .success

def ensureOperatorGroup (tenant : Tenant) : Task Cluster Progress := do
  let groups ← list .operatorGroup tenant.ns
  match groups with
  | group :: _ =>
    log .debug "operator group already present"
      [("count", .int groups.length), ("name", .string group.anyName),
        ("namespace", .string tenant.ns)]
  | [] =>
    let result ← apply tenant.operatorGroup
    log .info "operator group reconciled"
      [("namespace", .string tenant.ns), ("result", .string result.text)]
  return .success

def catalogSourceStage : Stage (Program Cluster) where
  name := "catalog-source"
  run config tenant := applyCatalogSource config tenant

def subscriptionStage : Stage (Program Cluster) where
  name := "subscription"
  run _ tenant := applySubscription tenant

def operatorGroupStage : Stage (Program Cluster) where
  name := "operator-group"
  run _ tenant := ensureOperatorGroup tenant

end GrafanaInstall.Objects
