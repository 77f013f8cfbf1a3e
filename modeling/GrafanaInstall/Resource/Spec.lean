import GrafanaInstall.Resource.Requirements

/-!
# Specs and statuses

The content of each kind of object, as far as the operator reads or writes it.
-/

namespace GrafanaInstall

/-! ## Catalog sources -/

/-- How a catalog source serves its package index. -/
inductive SourceType where
  | grpc
  | configMap
  | internal
  deriving DecidableEq

namespace SourceType

def text : SourceType → String
  | .grpc => "grpc"
  | .configMap => "configmap"
  | .internal => "internal"

def codec : Codec SourceType :=
  .word ([.grpc, .configMap, .internal].map fun t => (t.text, t)) text

end SourceType

/-- A pointer to a package index image. -/
structure CatalogSourceSpec where
  sourceType : SourceType := .grpc
  image : Option String := none
  displayName : Option String := none
  deriving DecidableEq

def CatalogSourceSpec.fields : Fields CatalogSourceSpec :=
  (.cons (.defaulted "sourceType" SourceType.codec .grpc) <|
   .cons (.optional "image" .string) <|
   .cons (.optional "displayName" .string) .none : Fields _).as
    (fun (sourceType, image, displayName, ()) => { sourceType, image, displayName })
    (fun s => (s.sourceType, s.image, s.displayName, ()))

/-! ## Subscriptions -/

/-- What a subscription overrides in the deployment of the operator it installs. -/
structure SubscriptionConfig where
  resources : Option ResourceRequirements := none
  deriving DecidableEq

def SubscriptionConfig.fields : Fields SubscriptionConfig :=
  (.cons (.optional "resources" ResourceRequirements.codec) .none : Fields _).as
    (fun (resources, ()) => { resources })
    (fun c => (c.resources, ()))

/-- Installs one package from one catalog source. -/
structure SubscriptionSpec where
  source : String := ""
  sourceNamespace : String := ""
  package : String := ""
  channel : Option String := none
  startingCsv : Option String := none
  config : Option SubscriptionConfig := none
  deriving DecidableEq

def SubscriptionSpec.fields : Fields SubscriptionSpec :=
  (.cons (.defaulted "source" .string "") <|
   .cons (.defaulted "sourceNamespace" .string "") <|
   .cons (.defaulted "name" .string "") <|
   .cons (.optional "channel" .string) <|
   .cons (.optional "startingCSV" .string) <|
   .cons (.optional "config" SubscriptionConfig.fields.record) .none : Fields _).as
    (fun (source, sourceNamespace, package, channel, startingCsv, config, ()) =>
      { source, sourceNamespace, package, channel, startingCsv, config })
    (fun s => (s.source, s.sourceNamespace, s.package, s.channel, s.startingCsv, s.config, ()))

/-! ## Operator groups -/

/-- The namespaces that an installed operator may watch. -/
structure OperatorGroupSpec where
  targetNamespaces : List String := []
  deriving DecidableEq

def OperatorGroupSpec.fields : Fields OperatorGroupSpec :=
  (.cons (.nonempty "targetNamespaces" .string) .none : Fields _).as
    (fun (targetNamespaces, ()) => { targetNamespaces })
    (fun s => (s.targetNamespaces, ()))

/-! ## Version records -/

/-- The record of one installed version of an operator. -/
structure ClusterServiceVersionSpec where
  displayName : Option String := none
  version : Option String := none
  deriving DecidableEq

def ClusterServiceVersionSpec.fields : Fields ClusterServiceVersionSpec :=
  (.cons (.optional "displayName" .string) <|
   .cons (.optional "version" .string) .none : Fields _).as
    (fun (displayName, version, ()) => { displayName, version })
    (fun s => (s.displayName, s.version, ()))

/-! ## Deployments -/

structure DeploymentStatus where
  availableReplicas : Option Int32 := none
  readyReplicas : Option Int32 := none
  replicas : Option Int32 := none
  deriving DecidableEq

def DeploymentStatus.fields : Fields DeploymentStatus :=
  (.cons (.optional "availableReplicas" .int32) <|
   .cons (.optional "readyReplicas" .int32) <|
   .cons (.optional "replicas" .int32) .none : Fields _).as
    (fun (availableReplicas, readyReplicas, replicas, ()) =>
      { availableReplicas, readyReplicas, replicas })
    (fun s => (s.availableReplicas, s.readyReplicas, s.replicas, ()))

/-! ## Observabilities -/

/-- The result of the last stage that ran. -/
inductive StageStatus where
  | success
  | inProgress
  | failed
  deriving DecidableEq

namespace StageStatus

def text : StageStatus → String
  | .success => "Success"
  | .inProgress => "InProgress"
  | .failed => "Failed"

def codec : Codec StageStatus :=
  .word ([.success, .inProgress, .failed].map fun s => (s.text, s)) text

end StageStatus

structure ObservabilityStatus where
  stage : Option String := none
  stageStatus : StageStatus := .inProgress
  message : Option String := none
  deriving DecidableEq

namespace ObservabilityStatus

def fields : Fields ObservabilityStatus :=
  (.cons (.optional "stage" .string) <|
   .cons (.defaulted "stageStatus" StageStatus.codec .inProgress) <|
   .cons (.optional "message" .string) .none : Fields _).as
    (fun (stage, stageStatus, message, ()) => { stage, stageStatus, message })
    (fun s => (s.stage, s.stageStatus, s.message, ()))

def codec : Codec ObservabilityStatus := fields.record

end ObservabilityStatus

/-- What a tenant asks for: a version of the grafana operator and a budget for its pod. -/
structure ObservabilitySpec where
  grafanaOperatorVersion : Option String := none
  grafanaOperatorResources : Option ResourceRequirements := none
  deriving DecidableEq

def ObservabilitySpec.fields : Fields ObservabilitySpec :=
  (.cons (.optional "grafanaOperatorVersion" .string) <|
   .cons (.optional "grafanaOperatorResources" ResourceRequirements.codec) .none : Fields _).as
    (fun (grafanaOperatorVersion, grafanaOperatorResources, ()) =>
      { grafanaOperatorVersion, grafanaOperatorResources })
    (fun s => (s.grafanaOperatorVersion, s.grafanaOperatorResources, ()))

end GrafanaInstall
