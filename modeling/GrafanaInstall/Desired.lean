import GrafanaInstall.Tenant

/-!
# Desired objects

The objects that a tenant is to have. Their names depend on nothing and their namespace is the
tenant's, so every run works on the same keys.
-/

namespace GrafanaInstall

/-! ## Names -/

namespace Label

def name : String := "app.kubernetes.io/name"
def managedBy : String := "app.kubernetes.io/managed-by"
def operator : String := "observability-operator"

end Label

def indexImage : String := "grafana-operator-index"
def grafanaPackage : String := "grafana-operator"
def grafanaChannel : String := "alpha"
def catalogSourceName : String := "grafana-operator-catalog-source"
def subscriptionName : String := "grafana-subscription"
def operatorGroupName : String := "observability-operatorgroup"

/-- The deployment that the installed operator runs in. -/
def deploymentName : String := "grafana-operator"

/-- What the name of each version record of the grafana operator starts with. -/
def versionRecordStem : String := "grafana-operator."

/-- Where the former community install took its package from. -/
def legacyNamespace : String := "openshift-marketplace"
def legacySource : String := "community-operators"

def hasStem (stem name : String) : Bool :=
  stem.toList.isPrefixOf name.toList

def catalogSourceImage (registry version : String) : String :=
  registry ++ "/" ++ indexImage ++ ":" ++ version

def startingCsv (version : String) : String :=
  grafanaPackage ++ "." ++ version

/-! ## Objects -/

def managedMetadata (name ns : String) : Metadata where
  name := name
  ns := ns
  labels := some (.ofEntries [(Label.managedBy, Label.operator), (Label.name, name)])

/-- The budget of an operator pod whose tenant does not ask for another. -/
def defaultResources : ResourceRequirements where
  limits := some (.ofEntries [("cpu", "500m"), ("memory", "512Mi")])
  requests := some (.ofEntries [("cpu", "100m"), ("memory", "256Mi")])

namespace Tenant

def operatorResources (tenant : Tenant) : ResourceRequirements :=
  tenant.resources.getD defaultResources

def catalogSource (tenant : Tenant) (config : InstallConfig) : CatalogSource where
  metadata := managedMetadata catalogSourceName tenant.ns
  body := { image := catalogSourceImage config.registry tenant.version }

def subscription (tenant : Tenant) : Subscription where
  metadata := managedMetadata subscriptionName tenant.ns
  body :=
    { channel := grafanaChannel
      config := some { resources := tenant.operatorResources }
      package := grafanaPackage
      source := catalogSourceName
      sourceNamespace := tenant.ns
      startingCsv := startingCsv tenant.version }

def operatorGroup (tenant : Tenant) : OperatorGroup where
  metadata := managedMetadata operatorGroupName tenant.ns
  body := { targetNamespaces := [tenant.ns] }

end Tenant

/-! ## The former install -/

/-- The subscription of the former install, which had the name that the operator uses now. -/
def isLegacySubscription (s : Subscription) : Bool :=
  s.metadata.name = some subscriptionName && s.body.sourceNamespace = legacyNamespace &&
    s.body.source = legacySource

def isVersionRecordName (name : String) : Bool :=
  hasStem versionRecordStem name

end GrafanaInstall
