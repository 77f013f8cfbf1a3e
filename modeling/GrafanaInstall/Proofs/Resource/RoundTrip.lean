import GrafanaInstall.Proofs.Codec.Lawful
import GrafanaInstall.Resource.Kind

/-!
# Objects read back

Each kind of object is read back from what it is written as. So two objects differ if and only if
they are written differently.
-/

namespace GrafanaInstall

open Codec.Lawful

/-! ## Metadata -/

theorem OwnerReference.fields_lawful : OwnerReference.fields.Lawful
    ["apiVersion", "blockOwnerDeletion", "controller", "kind", "name", "uid"] :=
  .as (fun _ => rfl) <| .cons (.nullable _ string _) <| .cons (.optional _ bool) <|
    .cons (.optional _ bool) <| .cons (.nullable _ string _) <| .cons (.nullable _ string _) <|
    .cons (.nullable _ string _) .none

theorem ManagedFieldsEntry.fields_lawful : ManagedFieldsEntry.fields.Lawful
    ["apiVersion", "fieldsType", "fieldsV1", "manager", "operation", "subresource", "time"] :=
  .as (fun _ => rfl) <| .cons (.optional _ string) <| .cons (.optional _ string) <|
    .cons (.optional _ plain) <| .cons (.optional _ string) <| .cons (.optional _ string) <|
    .cons (.optional _ string) <| .cons (.optional _ instant) .none

def Metadata.names : List String :=
  ["annotations", "creationTimestamp", "deletionGracePeriodSeconds", "deletionTimestamp",
    "finalizers", "generateName", "generation", "labels", "managedFields", "name", "namespace",
    "ownerReferences", "resourceVersion", "selfLink", "uid"]

theorem Metadata.fields_lawful : Metadata.fields.Lawful Metadata.names :=
  .as (fun _ => rfl) <| .cons (.optional _ (map string)) <| .cons (.optional _ instant) <|
    .cons (.optional _ int64) <| .cons (.optional _ instant) <|
    .cons (.optional _ (list string)) <| .cons (.optional _ string) <|
    .cons (.optional _ int64) <| .cons (.optional _ (map string)) <|
    .cons (.optional _ (list (ManagedFieldsEntry.fields_lawful.mapping (by decide)))) <|
    .cons (.optional _ string) <| .cons (.optional _ string) <|
    .cons (.optional _ (list (OwnerReference.fields_lawful.mapping (by decide)))) <|
    .cons (.optional _ string) <| .cons (.optional _ string) <| .cons (.optional _ string) .none

theorem Metadata.lawful : Metadata.codec.Lawful := Metadata.fields_lawful.mapping (by decide)

/-! ## Content -/

theorem ResourceClaim.fields_lawful : ResourceClaim.fields.Lawful ["name", "request"] :=
  .as (fun _ => rfl) <| .cons (.nullable _ string _) <| .cons (.optional _ string) .none

theorem ResourceRequirements.fields_lawful :
    ResourceRequirements.fields.Lawful ["claims", "limits", "requests"] :=
  .as (fun _ => rfl) <|
    .cons (.optional _ (list (ResourceClaim.fields_lawful.mapping (by decide)))) <|
    .cons (.optional _ (map string)) <| .cons (.optional _ (map string)) .none

theorem ResourceRequirements.lawful : ResourceRequirements.codec.Lawful :=
  ResourceRequirements.fields_lawful.mapping (by decide)

theorem SourceType.lawful : SourceType.codec.Lawful :=
  word fun t => by cases t <;> rfl

theorem CatalogSourceSpec.lawful : CatalogSourceSpec.fields.record.Lawful :=
  Fields.Lawful.record
    (.as (fun _ => rfl) <| .cons (.defaulted _ SourceType.lawful _) <| .cons (.optional _ string) <|
      .cons (.optional _ string) .none)
    (by decide)

theorem SubscriptionConfig.lawful : SubscriptionConfig.fields.record.Lawful :=
  Fields.Lawful.record
    (.as (fun _ => rfl) <| .cons (.optional _ ResourceRequirements.lawful) .none)
    (by decide)

theorem SubscriptionSpec.lawful : SubscriptionSpec.fields.record.Lawful :=
  Fields.Lawful.record
    (.as (fun _ => rfl) <| .cons (.defaulted _ string _) <| .cons (.defaulted _ string _) <|
      .cons (.defaulted _ string _) <| .cons (.optional _ string) <| .cons (.optional _ string) <|
      .cons (.optional _ SubscriptionConfig.lawful) .none)
    (by decide)

theorem OperatorGroupSpec.lawful : OperatorGroupSpec.fields.record.Lawful :=
  Fields.Lawful.record
    (.as (fun _ => rfl) <| .cons (.nonempty _ string) .none)
    (by decide)

theorem ClusterServiceVersionSpec.lawful : ClusterServiceVersionSpec.fields.record.Lawful :=
  Fields.Lawful.record
    (.as (fun _ => rfl) <| .cons (.optional _ string) <| .cons (.optional _ string) .none)
    (by decide)

theorem DeploymentStatus.lawful : DeploymentStatus.fields.mapping.Lawful :=
  Fields.Lawful.mapping
    (.as (fun _ => rfl) <| .cons (.optional _ int32) <| .cons (.optional _ int32) <|
      .cons (.optional _ int32) .none)
    (by decide)

theorem StageStatus.lawful : StageStatus.codec.Lawful :=
  word fun s => by cases s <;> rfl

def ObservabilityStatus.names : List String := ["stage", "stageStatus", "message"]

theorem ObservabilityStatus.fields_lawful :
    ObservabilityStatus.fields.Lawful ObservabilityStatus.names :=
  .as (fun _ => rfl) <| .cons (.optional _ string) <| .cons (.defaulted _ StageStatus.lawful _) <|
    .cons (.optional _ string) .none

theorem ObservabilityStatus.lawful : ObservabilityStatus.codec.Lawful :=
  ObservabilityStatus.fields_lawful.record (by decide)

theorem ObservabilitySpec.fields_lawful : ObservabilitySpec.fields.Lawful
    ["grafanaOperatorVersion", "grafanaOperatorResources"] :=
  .as (fun _ => rfl) <| .cons (.optional _ string) <|
    .cons (.optional _ ResourceRequirements.lawful) .none

theorem ObservabilitySpec.lawful : ObservabilitySpec.fields.record.Lawful :=
  ObservabilitySpec.fields_lawful.record (by decide)

/-! ## Objects -/

namespace Object

theorem specFields_lawful (k : Kind) {spec : Codec k.Body} (h : spec.Lawful) :
    (specFields k spec).Lawful ["metadata", "spec"] :=
  .as (fun _ => rfl) <| .cons (.required _ Metadata.lawful) <| .cons (.required _ h) .none

theorem specCodec_lawful (k : Kind) {spec : Codec k.Body} (h : spec.Lawful) :
    (specCodec k spec).Lawful :=
  (specFields_lawful k h).stamped (by decide) (by simp [typeStamps])

theorem observabilityFields_lawful :
    observabilityFields.Lawful ["metadata", "spec", "status"] :=
  .as (fun _ => rfl) <| .cons (.required _ Metadata.lawful) <|
    .cons (.required _ ObservabilitySpec.lawful) <|
    .cons (Field.Lawful.optional "status" ObservabilityStatus.lawful).reached .none

theorem codec_lawful (k : Kind) : (codec k).Lawful :=
  match k with
  | .catalogSource => specCodec_lawful _ CatalogSourceSpec.lawful
  | .subscription => specCodec_lawful _ SubscriptionSpec.lawful
  | .operatorGroup => specCodec_lawful _ OperatorGroupSpec.lawful
  | .clusterServiceVersion => specCodec_lawful _ ClusterServiceVersionSpec.lawful
  | .deployment => Fields.Lawful.mapping
    (.as (fun _ => rfl) <| .cons (.tag ..) <| .cons (.tag ..) <|
      .cons (.nullable _ Metadata.lawful _) <| .cons (.optional _ DeploymentStatus.lawful) .none)
    (by decide)
  | .observability => observabilityFields_lawful.stamped (by decide) (by simp [typeStamps])
  | .configMap => Fields.Lawful.mapping
    (.as (fun _ => rfl) <| .cons (.tag ..) <| .cons (.tag ..) <| .cons (.optional _ (map string)) <|
      .cons (.nullable _ Metadata.lawful _) .none)
    (by decide)

theorem read?_json (o : Object k) : read? k o.json = some o :=
  (codec_lawful k).read_write o

theorem json_inj {a b : Object k} : a.json = b.json ↔ a = b :=
  (codec_lawful k).write_inj

/-- A mutation is written back if and only if it changes the object. -/
theorem mutatedIfChanged_eq (observed : Object k) (mutate : Object k → Object k) :
    observed.mutatedIfChanged mutate =
      if mutate observed = observed then none else some (mutate observed) := by
  by_cases h : mutate observed = observed
  · simp [mutatedIfChanged, needsUpdate, h]
  · simp [mutatedIfChanged, needsUpdate, json_inj, h, Ne.symm h]

end Object

end GrafanaInstall
