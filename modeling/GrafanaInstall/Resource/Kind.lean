import GrafanaInstall.Resource.Metadata
import GrafanaInstall.Resource.Spec

/-!
# Kinds and objects

The kinds of object that the operator works with, where the server keeps them, and the typed
view of one object of a kind.
-/

namespace GrafanaInstall

inductive Kind where
  | catalogSource
  | subscription
  | operatorGroup
  | clusterServiceVersion
  | deployment
  | observability
  | configMap
  deriving DecidableEq

namespace Kind

def all : List Kind :=
  [.catalogSource, .subscription, .operatorGroup, .clusterServiceVersion, .deployment,
    .observability, .configMap]

def name : Kind → String
  | .catalogSource => "CatalogSource"
  | .subscription => "Subscription"
  | .operatorGroup => "OperatorGroup"
  | .clusterServiceVersion => "ClusterServiceVersion"
  | .deployment => "Deployment"
  | .observability => "Observability"
  | .configMap => "ConfigMap"

def ofName? (name : String) : Option Kind :=
  all.find? (·.name = name)

/-- The name of the collection that holds the objects of a kind. -/
def plural : Kind → String
  | .catalogSource => "catalogsources"
  | .subscription => "subscriptions"
  | .operatorGroup => "operatorgroups"
  | .clusterServiceVersion => "clusterserviceversions"
  | .deployment => "deployments"
  | .observability => "observabilities"
  | .configMap => "configmaps"

def apiVersion : Kind → String
  | .catalogSource | .subscription | .clusterServiceVersion => "operators.coreos.com/v1alpha1"
  | .operatorGroup => "operators.coreos.com/v1"
  | .deployment => "apps/v1"
  | .observability => "observability.redhat.com/v1"
  | .configMap => "v1"

end Kind

/-! ## Content -/

structure DeploymentBody where
  status : Option DeploymentStatus := none
  deriving DecidableEq

structure ObservabilityBody where
  spec : ObservabilitySpec := {}
  status : Option ObservabilityStatus := none
  deriving DecidableEq

structure ConfigMapBody where
  data : Option (Dictionary String) := none
  deriving DecidableEq

/-- The content of an object beside its metadata. -/
@[reducible] def Kind.Body : Kind → Type
  | .catalogSource => CatalogSourceSpec
  | .subscription => SubscriptionSpec
  | .operatorGroup => OperatorGroupSpec
  | .clusterServiceVersion => ClusterServiceVersionSpec
  | .deployment => DeploymentBody
  | .observability => ObservabilityBody
  | .configMap => ConfigMapBody

instance : (k : Kind) → DecidableEq k.Body
  | .catalogSource => inferInstanceAs (DecidableEq CatalogSourceSpec)
  | .subscription => inferInstanceAs (DecidableEq SubscriptionSpec)
  | .operatorGroup => inferInstanceAs (DecidableEq OperatorGroupSpec)
  | .clusterServiceVersion => inferInstanceAs (DecidableEq ClusterServiceVersionSpec)
  | .deployment => inferInstanceAs (DecidableEq DeploymentBody)
  | .observability => inferInstanceAs (DecidableEq ObservabilityBody)
  | .configMap => inferInstanceAs (DecidableEq ConfigMapBody)

structure Object (k : Kind) where
  metadata : Metadata
  body : k.Body
  deriving DecidableEq

abbrev CatalogSource := Object .catalogSource
abbrev Subscription := Object .subscription
abbrev OperatorGroup := Object .operatorGroup
abbrev ClusterServiceVersion := Object .clusterServiceVersion
abbrev Deployment := Object .deployment
abbrev Observability := Object .observability
abbrev ConfigMap := Object .configMap

namespace Object

/-! ## Reading and writing -/

/-- Says what an object is. What it is read from may say otherwise. -/
def typeStamps (k : Kind) : List (String × String) :=
  [("apiVersion", k.apiVersion), ("kind", k.name)]

/-- A kind whose content is a spec. Metadata and spec must be there. -/
def specFields (k : Kind) (spec : Codec k.Body) : Fields (Object k) :=
  (.cons (.required "metadata" Metadata.codec) <|
   .cons (.required "spec" spec) .none : Fields _).as
    (fun (metadata, body, ()) => { metadata, body })
    (fun o => (o.metadata, o.body, ()))

def specCodec (k : Kind) (spec : Codec k.Body) : Codec (Object k) :=
  (specFields k spec).record.stamped (typeStamps k)

/-- A list must give the status too, if only as null. -/
def observabilityFields : Fields Observability :=
  (.cons (.required "metadata" Metadata.codec) <|
   .cons (.required "spec" ObservabilitySpec.fields.record) <|
   .cons { Field.optional "status" ObservabilityStatus.codec with beyond := none } .none :
      Fields _).as
    (fun (metadata, spec, status, ()) => { metadata, body := { spec, status } })
    (fun o => (o.metadata, o.body.spec, o.body.status, ()))

def deploymentFields : Fields Deployment :=
  (.cons (.tag "apiVersion" Kind.deployment.apiVersion) <|
   .cons (.tag "kind" Kind.deployment.name) <|
   .cons (.nullable "metadata" Metadata.codec {}) <|
   .cons (.optional "status" DeploymentStatus.fields.mapping) .none : Fields _).as
    (fun ((), (), metadata, status, ()) => { metadata, body := { status } })
    (fun o => ((), (), o.metadata, o.body.status, ()))

def configMapFields : Fields ConfigMap :=
  (.cons (.tag "apiVersion" Kind.configMap.apiVersion) <|
   .cons (.tag "kind" Kind.configMap.name) <|
   .cons (.optional "data" (.map .string)) <|
   .cons (.nullable "metadata" Metadata.codec {}) .none : Fields _).as
    (fun ((), (), data, metadata, ()) => { metadata, body := { data } })
    (fun o => ((), (), o.body.data, o.metadata, ()))

def codec : (k : Kind) → Codec (Object k)
  | .catalogSource => specCodec .catalogSource CatalogSourceSpec.fields.record
  | .subscription => specCodec .subscription SubscriptionSpec.fields.record
  | .operatorGroup => specCodec .operatorGroup OperatorGroupSpec.fields.record
  | .clusterServiceVersion =>
    specCodec .clusterServiceVersion ClusterServiceVersionSpec.fields.record
  | .deployment => deploymentFields.mapping
  | .observability => observabilityFields.record.stamped (typeStamps .observability)
  | .configMap => configMapFields.mapping

def read? (k : Kind) (value : Json) : Option (Object k) := (codec k).read value

def json (o : Object k) : Json := (codec k).write o

def anyName (o : Object k) : String := o.metadata.anyName

/-! ## Change -/

/-- Whether the two differ once they are written. -/
def needsUpdate (observed mutated : Object k) : Bool :=
  observed.json ≠ mutated.json

/-- The observed object after a mutation, or nothing if that changed nothing. -/
def mutatedIfChanged (observed : Object k) (mutate : Object k → Object k) : Option (Object k) :=
  if observed.needsUpdate (mutate observed) then some (mutate observed) else none

/-- Takes over from the desired object the part that a writer of this kind sets: the status of
an observability, no part of a deployment, and all content of any other kind. -/
def overwrite (desired : Object k) (observed : Object k) : Object k :=
  match k with
  | .observability =>
    { observed with body := { observed.body with status := desired.body.status } }
  | .deployment => observed
  | _ => { observed with body := desired.body }

end Object

end GrafanaInstall
