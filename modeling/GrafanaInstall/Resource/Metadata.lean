import GrafanaInstall.Codec

/-!
# Object metadata

What every object carries beside its own content: its name, its labels, its finalizers, and the
marks that the server puts on it.
-/

namespace GrafanaInstall

structure OwnerReference where
  apiVersion : String
  blockOwnerDeletion : Option Bool
  controller : Option Bool
  kind : String
  name : String
  uid : String
  deriving DecidableEq

namespace OwnerReference

def fields : Fields OwnerReference :=
  (.cons (.nullable "apiVersion" .string "") <|
   .cons (.optional "blockOwnerDeletion" .bool) <|
   .cons (.optional "controller" .bool) <|
   .cons (.nullable "kind" .string "") <|
   .cons (.nullable "name" .string "") <|
   .cons (.nullable "uid" .string "") .none : Fields _).as
    (fun (apiVersion, blockOwnerDeletion, controller, kind, name, uid, ()) =>
      { apiVersion, blockOwnerDeletion, controller, kind, name, uid })
    (fun r => (r.apiVersion, r.blockOwnerDeletion, r.controller, r.kind, r.name, r.uid, ()))

end OwnerReference

/-- Which fields a client looks after, as the server keeps account of it. -/
structure ManagedFieldsEntry where
  apiVersion : Option String := none
  fieldsType : Option String := none
  fieldsV1 : Option Json.Plain := none
  manager : Option String := none
  operation : Option String := none
  subresource : Option String := none
  time : Option Instant := none
  deriving DecidableEq

namespace ManagedFieldsEntry

def fields : Fields ManagedFieldsEntry :=
  (.cons (.optional "apiVersion" .string) <|
   .cons (.optional "fieldsType" .string) <|
   .cons (.optional "fieldsV1" .plain) <|
   .cons (.optional "manager" .string) <|
   .cons (.optional "operation" .string) <|
   .cons (.optional "subresource" .string) <|
   .cons (.optional "time" .instant) .none : Fields _).as
    (fun (apiVersion, fieldsType, fieldsV1, manager, operation, subresource, time, ()) =>
      { apiVersion, fieldsType, fieldsV1, manager, operation, subresource, time })
    (fun e => (e.apiVersion, e.fieldsType, e.fieldsV1, e.manager, e.operation, e.subresource,
      e.time, ()))

end ManagedFieldsEntry

structure Metadata where
  annotations : Option (Dictionary String) := none
  creationTimestamp : Option Instant := none
  deletionGracePeriodSeconds : Option Int64 := none
  deletionTimestamp : Option Instant := none
  finalizers : Option (List String) := none
  generateName : Option String := none
  generation : Option Int64 := none
  labels : Option (Dictionary String) := none
  managedFields : Option (List ManagedFieldsEntry) := none
  name : Option String := none
  ns : Option String := none
  ownerReferences : Option (List OwnerReference) := none
  resourceVersion : Option String := none
  selfLink : Option String := none
  uid : Option String := none
  deriving DecidableEq

namespace Metadata

def fields : Fields Metadata :=
  (.cons (.optional "annotations" (.map .string)) <|
   .cons (.optional "creationTimestamp" .instant) <|
   .cons (.optional "deletionGracePeriodSeconds" .int64) <|
   .cons (.optional "deletionTimestamp" .instant) <|
   .cons (.optional "finalizers" (.list .string)) <|
   .cons (.optional "generateName" .string) <|
   .cons (.optional "generation" .int64) <|
   .cons (.optional "labels" (.map .string)) <|
   .cons (.optional "managedFields" (.list ManagedFieldsEntry.fields.mapping)) <|
   .cons (.optional "name" .string) <|
   .cons (.optional "namespace" .string) <|
   .cons (.optional "ownerReferences" (.list OwnerReference.fields.mapping)) <|
   .cons (.optional "resourceVersion" .string) <|
   .cons (.optional "selfLink" .string) <|
   .cons (.optional "uid" .string) .none : Fields _).as
    (fun (annotations, creationTimestamp, deletionGracePeriodSeconds, deletionTimestamp, finalizers,
        generateName, generation, labels, managedFields, name, ns, ownerReferences,
        resourceVersion, selfLink, uid, ()) =>
      { annotations, creationTimestamp, deletionGracePeriodSeconds, deletionTimestamp, finalizers,
        generateName, generation, labels, managedFields, name, ns, ownerReferences,
        resourceVersion, selfLink, uid })
    (fun m => (m.annotations, m.creationTimestamp, m.deletionGracePeriodSeconds,
      m.deletionTimestamp, m.finalizers, m.generateName, m.generation, m.labels,
      m.managedFields, m.name, m.ns, m.ownerReferences, m.resourceVersion, m.selfLink, m.uid, ()))

def codec : Codec Metadata := fields.mapping

/-- The name, or else the stem that the server would make one from. -/
def anyName (m : Metadata) : String :=
  (m.name.or m.generateName).getD ""

def hasFinalizer (m : Metadata) (finalizer : String) : Bool :=
  (m.finalizers.getD []).contains finalizer

end Metadata

end GrafanaInstall
